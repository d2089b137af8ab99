import HealthWatch.Decimal.Reading
import HealthWatch.Proofs.LatencyText
import Mathlib.Tactic.Ring

/-!
# Runs of digits

A run of digits stands for a number (`digitsValue`), and the digits of a number are the one run
for it that has no needless zero (`toDigits_digitsValue`).  Runs that follow each other stand
for a number in places: the first is worth as many powers of ten as the second has digits.
-/

namespace HealthWatch

open HealthWatch.Json

/-- The number of a run, in the terms of the library. -/
theorem digitsValue_eq (ds : List Char) : digitsValue ds = Nat.ofDigitChars 10 ds 0 :=
  Nat.ofDigitChars_eq_foldl.symm

theorem digitsValue_toDigits (n : Nat) : digitsValue (Nat.toDigits 10 n) = n := by
  rw [digitsValue_eq]
  exact Nat.ofDigitChars_ten_toDigits

theorem digitsValue_append (ds es : List Char) :
    digitsValue (ds ++ es) = 10 ^ es.length * digitsValue ds + digitsValue es := by
  rw [digitsValue_eq, Nat.ofDigitChars_append, Nat.ofDigitChars_eq_ofDigitChars_zero]
  rfl

theorem digitsValue_single (c : Char) : digitsValue [c] = c.toNat - 48 := by
  simp [digitsValue]

/-- Zeros behind a run move it to higher places. -/
theorem digitsValue_zeros (ds : List Char) (k : Nat) :
    digitsValue (ds ++ List.replicate k '0') = 10 ^ k * digitsValue ds := by
  rw [digitsValue_eq, Nat.ofDigitChars_append, Nat.ofDigitChars_replicate_zero]
  rfl

/-- A run of digits without a needless zero. -/
structure IsNumeral (ds : List Char) : Prop where
  ne_nil : ds ≠ []
  all_digits : ∀ c ∈ ds, c.isDigit = true
  head : ds.head? = some '0' → ds = ['0']

theorem isNumeral_toDigits (n : Nat) : IsNumeral (Nat.toDigits 10 n) where
  ne_nil := Nat.toDigits_ne_nil
  all_digits := (Digits.ofNat n).all_digits
  head hhead := by
    by_cases hn : n = 0
    · rw [hn]
      rfl
    · exact absurd hhead (toDigits_head hn)

/-- A digit is the one of its number. -/
theorem toDigits_digit {c : Char} (hc : c.isDigit = true) :
    c.toNat - 48 < 10 ∧ Nat.toDigits 10 (c.toNat - 48) = [c] := by
  obtain ⟨hge, hle⟩ : 48 ≤ c.toNat ∧ c.toNat ≤ 57 := by
    simpa [Char.isDigit, UInt32.le_iff_toNat_le] using hc
  have hlt : c.toNat - 48 < 10 := by omega
  refine ⟨hlt, ?_⟩
  have hall : ∀ n < 10, Nat.digitChar n = Char.ofNat (n + 48) := by decide
  rw [Nat.toDigits_of_lt_base hlt, hall _ hlt, Nat.sub_add_cancel hge, Char.ofNat_toNat]

/-- Digits behind those of a number that is not zero go on with it. -/
theorem toDigits_append {ds : List Char} (hds : ∀ c ∈ ds, c.isDigit = true) {n : Nat}
    (hn : 0 < n) :
    Nat.toDigits 10 n ++ ds = Nat.toDigits 10 (10 ^ ds.length * n + digitsValue ds) := by
  induction ds generalizing n with
  | nil => simp [digitsValue]
  | cons c ds ih =>
      obtain ⟨hlt, hc⟩ := toDigits_digit (hds c List.mem_cons_self)
      have hcons : digitsValue (c :: ds) =
          10 ^ ds.length * (c.toNat - 48) + digitsValue ds := by
        have hsplit := digitsValue_append [c] ds
        rwa [digitsValue_single] at hsplit
      calc Nat.toDigits 10 n ++ c :: ds
          = (Nat.toDigits 10 n ++ Nat.toDigits 10 (c.toNat - 48)) ++ ds := by rw [hc]; simp
        _ = Nat.toDigits 10 (10 * n + (c.toNat - 48)) ++ ds := by
            rw [Nat.toDigits_append_toDigits (by decide) hn hlt]
        _ = Nat.toDigits 10 (10 ^ ds.length * (10 * n + (c.toNat - 48)) + digitsValue ds) :=
            ih (fun c hc => hds c (List.mem_cons_of_mem _ hc)) (by omega)
        _ = Nat.toDigits 10 (10 ^ (c :: ds).length * n + digitsValue (c :: ds)) := by
            rw [hcons, List.length_cons, Nat.pow_succ]
            congr 1
            ring

/-- A run without a needless zero is the run of its number. -/
theorem IsNumeral.toDigits_eq {ds : List Char} (h : IsNumeral ds) :
    Nat.toDigits 10 (digitsValue ds) = ds := by
  cases ds with
  | nil => exact absurd rfl h.ne_nil
  | cons c ds =>
      by_cases hzero : c = '0'
      · rw [h.head (by rw [hzero, List.head?_cons])]
        rfl
      · obtain ⟨hlt, hc⟩ := toDigits_digit (h.all_digits c List.mem_cons_self)
        have hpos : 0 < c.toNat - 48 := by
          refine Nat.pos_of_ne_zero fun hnone => hzero ?_
          rw [hnone] at hc
          exact (List.cons.inj hc).1.symm
        rw [← List.singleton_append, digitsValue_append, digitsValue_single,
          ← toDigits_append (fun c hc => h.all_digits c (List.mem_cons_of_mem _ hc)) hpos, hc]

end HealthWatch
