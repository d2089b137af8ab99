import HealthWatch.Proofs.JsonRoundTrip
import HealthWatch.Report.Body

/-!
# The texts of latencies

A latency that is a finite number is written as a numeral (`latency_numeral`): without an
exponent it has decimals, be they a single zero, and with one it has one digit before the
point.  The first digit of what is written is never a needless zero, since the digits of a
number that is not zero begin with another one.
-/

namespace HealthWatch

open HealthWatch.Json

/-! ## Digits of natural numbers -/

theorem toDigits_head {n : Nat} (h : n ≠ 0) : (Nat.toDigits 10 n).head? ≠ some '0' := by
  induction n using Nat.strongRecOn with
  | ind n ih =>
      rcases Nat.lt_or_ge n 10 with hlt | hge
      · rw [Nat.toDigits_of_lt_base hlt, List.head?_cons]
        intro heq
        exact h (Nat.digitChar_eq_zero.mp (Option.some.inj heq))
      · rw [Nat.toDigits_of_base_le (by decide) hge,
          List.head?_append_of_ne_nil _ Nat.toDigits_ne_nil]
        exact ih (n / 10) (by omega) (by omega)

/-- The digits of a natural number. -/
def Json.Digits.ofNat (n : Nat) : Digits where
  chars := Nat.toDigits 10 n
  ne_nil := Nat.toDigits_ne_nil
  all_digits := fun _ hc => Nat.isDigit_of_mem_toDigits (by decide) (by decide) hc

theorem toList_toString (n : Nat) : (toString n).toList = Nat.toDigits 10 n :=
  Nat.toList_repr

/-- A count is written as a numeral. -/
theorem count_numeral (n : Nat) : ∃ m : Numeral, toString n = String.ofList m.chars := by
  refine ⟨⟨false, .ofNat n, ?_, none, none⟩, ?_⟩
  · by_cases hn : n = 0
    · subst hn
      exact .inl rfl
    · exact .inr (toDigits_head hn)
  · rw [← String.ofList_toList (s := toString n), toList_toString]
    simp [Numeral.chars, Numeral.pointChars, Numeral.powerChars, Digits.ofNat]

/-! ## Layouts -/

namespace NumberLayout

variable {d : Nat}

/-- Zeros of any number, in front of digits. -/
theorem digits_replicate (k : Nat) {cs : List Char} (hcs : cs ≠ [])
    (hdigits : ∀ c ∈ cs, c.isDigit = true) :
    ∃ ds : Digits, ds.chars = List.replicate k '0' ++ cs := by
  refine ⟨⟨List.replicate k '0' ++ cs, by simp [hcs], fun c hc => ?_⟩, rfl⟩
  rcases List.mem_append.mp hc with hzero | hc
  · rw [List.eq_of_mem_replicate hzero]
    decide
  · exact hdigits c hc

/-- The first digits of a number that is not zero. -/
theorem digits_take (hd : d ≠ 0) {k : Nat} (hk : 0 < k) :
    ∃ ds : Digits, ds.chars = (Nat.toDigits 10 d).take k ∧ ds.chars.head? ≠ some '0' := by
  have hall : ∀ c ∈ (Nat.toDigits 10 d).take k, c.isDigit = true :=
    fun c hc => (Digits.ofNat d).all_digits c (List.mem_of_mem_take hc)
  have hne : (Nat.toDigits 10 d).take k ≠ [] := by
    rw [ne_eq, List.take_eq_nil_iff, not_or]
    exact ⟨by omega, Nat.toDigits_ne_nil⟩
  refine ⟨⟨_, hne, hall⟩, rfl, ?_⟩
  rw [List.head?_take, if_neg (by omega)]
  exact toDigits_head hd

/-- The digits of a number behind the first ones, if there are any. -/
theorem digits_drop {k : Nat} (hk : k < (Nat.toDigits 10 d).length) :
    ∃ ds : Digits, ds.chars = (Nat.toDigits 10 d).drop k := by
  have hall : ∀ c ∈ (Nat.toDigits 10 d).drop k, c.isDigit = true :=
    fun c hc => (Digits.ofNat d).all_digits c (List.mem_of_mem_drop hc)
  have hne : (Nat.toDigits 10 d).drop k ≠ [] := by
    rw [ne_eq, List.drop_eq_nil_iff]
    omega
  exact ⟨⟨_, hne, hall⟩, rfl⟩

/-- What ends a whole number: nothing, or a point and decimals. -/
def EndsWhole (mark : String) (decimals : Option Digits) : Prop :=
  mark.toList = decimals.elim [] fun ds => '.' :: ds.chars

/-- Without an exponent, a number is written as a numeral. -/
theorem positional_numeral {mark : String} {decimals : Option Digits}
    (hmark : EndsWhole mark decimals) (hd : d ≠ 0) (exponent : Int) :
    ∃ n : Numeral, n.negative = false ∧
      positionalText mark (toString d) exponent = String.ofList n.chars := by
  have hne : Nat.toDigits 10 d ≠ [] := Nat.toDigits_ne_nil
  have hall : ∀ c ∈ Nat.toDigits 10 d, c.isDigit = true := (Digits.ofNat d).all_digits
  have hlength : (toString d).length = (Nat.toDigits 10 d).length := by
    rw [← String.length_toList, toList_toString]
  unfold positionalText
  dsimp only
  rw [hlength]
  split
  · -- a whole number
    refine ⟨⟨false, ⟨Nat.toDigits 10 d ++ List.replicate exponent.toNat '0', ?_, ?_⟩, .inr ?_,
      decimals, none⟩, rfl, ?_⟩
    · simp
    · intro c hc
      rcases List.mem_append.mp hc with hc | hzero
      · exact hall c hc
      · rw [List.eq_of_mem_replicate hzero]
        decide
    · dsimp only
      rw [List.head?_append_of_ne_nil _ hne]
      exact toDigits_head hd
    · rw [EndsWhole] at hmark
      rw [← String.toList_inj]
      cases decimals with
      | none => simpa [Numeral.chars, Numeral.pointChars, Numeral.powerChars] using hmark
      | some ds => simpa [Numeral.chars, Numeral.pointChars, Numeral.powerChars] using hmark
  · have hpos : 0 < (-exponent).toNat := by omega
    generalize (-exponent).toNat = places at hpos ⊢
    split
    · -- the point stands between the digits
      next hplaces =>
      obtain ⟨whole, hwhole, hhead⟩ := digits_take hd (k := (Nat.toDigits 10 d).length - places)
        (by omega)
      obtain ⟨ds, hds⟩ := digits_drop (d := d) (k := (Nat.toDigits 10 d).length - places) (by omega)
      refine ⟨⟨false, whole, .inr hhead, some ds, none⟩, rfl, ?_⟩
      rw [← String.toList_inj]
      simp [Numeral.chars, Numeral.pointChars, Numeral.powerChars, hwhole, hds]
    · -- all digits are decimals
      obtain ⟨ds, hds⟩ := digits_replicate (places - (Nat.toDigits 10 d).length) hne hall
      refine ⟨⟨false, .ofNat 0, .inl rfl, some ds, none⟩, rfl, ?_⟩
      rw [← String.toList_inj]
      simp [Numeral.chars, Numeral.pointChars, Numeral.powerChars, Digits.ofNat, hds]

/-- With an exponent, a number is written as a numeral with one digit before the point. -/
theorem scientific_numeral (hd : d ≠ 0) (leading : Int) :
    ∃ n : Numeral, n.negative = false ∧
      scientificText "+" (toString d) leading = String.ofList n.chars := by
  obtain ⟨whole, hwhole, hhead⟩ := digits_take hd Nat.one_pos
  have hrest : ((toString d).drop 1).toString.toList = (Nat.toDigits 10 d).drop 1 := by simp
  have hpower : ((if leading < 0 then "-" else "+") ++ toString leading.natAbs).toList =
      (if leading < 0 then '-' else '+') :: Nat.toDigits 10 leading.natAbs := by
    split <;> simp
  unfold scientificText
  dsimp only
  by_cases hlength : 1 < (Nat.toDigits 10 d).length
  · obtain ⟨ds, hds⟩ := digits_drop hlength
    have hpoint : ((toString d).drop 1).toString.isEmpty = false := by
      rw [String.isEmpty_eq_false_iff, ne_eq, ← String.toList_eq_nil_iff, hrest,
        ← hds]
      exact ds.ne_nil
    refine ⟨⟨false, whole, .inr hhead, some ds,
      some (decide (leading < 0), .ofNat leading.natAbs)⟩, rfl, ?_⟩
    rw [hpoint, ← String.toList_inj, String.append_assoc, String.toList_append, hpower]
    simp [Numeral.chars, Numeral.pointChars, Numeral.powerChars, Digits.ofNat, hwhole, hds]
  · have hnil : (Nat.toDigits 10 d).drop 1 = [] := List.drop_eq_nil_iff.mpr (by omega)
    refine ⟨⟨false, whole, .inr hhead, none,
      some (decide (leading < 0), .ofNat leading.natAbs)⟩, rfl, ?_⟩
    have hpoint : ((toString d).drop 1).toString = "" := by
      rw [← String.toList_eq_nil_iff, hrest, hnil]
    rw [hpoint, ← String.toList_inj, String.append_assoc, String.toList_append, hpower]
    simp [Numeral.chars, Numeral.pointChars, Numeral.powerChars, Digits.ofNat, hwhole]

/-- A finite double is written as a numeral, if the format has a sign for positive exponents or
writes no exponents. -/
theorem write_numeral (l : NumberLayout) (decimals : Option Digits)
    (hmark : EndsWhole l.wholeMark decimals)
    (hsign : l.plusSign = "+" ∨ ∀ leading, l.positional leading = true) {x : Float}
    {negative : Bool} {mantissa : Nat} {exponent : Int}
    (h : Binary.ofFloat x = .finite negative mantissa exponent) :
    ∃ n : Numeral, l.write x = String.ofList n.chars := by
  have hmagnitude : ∃ n : Numeral, n.negative = false ∧
      l.writeMagnitude mantissa exponent = String.ofList n.chars := by
    unfold writeMagnitude
    dsimp only
    split
    · refine ⟨⟨false, .ofNat 0, .inl rfl, decimals, none⟩, rfl, ?_⟩
      rw [EndsWhole] at hmark
      rw [← String.toList_inj, String.toList_append, hmark]
      cases decimals with
      | none => rfl
      | some ds => simp [Numeral.chars, Numeral.pointChars, Numeral.powerChars, Digits.ofNat]
    · next hd =>
      split
      · exact positional_numeral hmark hd _
      · next hscientific =>
        have hplus : l.plusSign = "+" := hsign.resolve_right fun hall => hscientific (hall _)
        rw [hplus]
        exact scientific_numeral hd _
  obtain ⟨n, hn, htext⟩ := hmagnitude
  refine ⟨{ n with negative := negative }, ?_⟩
  rw [write, h]
  dsimp only
  rw [htext]
  cases negative
  all_goals simp [Numeral.chars, Numeral.pointChars, Numeral.powerChars, hn]

end NumberLayout

/-- A latency that is a finite number is written as a numeral. -/
theorem latency_numeral {x : Float} {negative : Bool} {mantissa : Nat} {exponent : Int}
    (h : Binary.ofFloat x = .finite negative mantissa exponent) :
    ∃ n : Numeral, latencyLayout.write x = String.ofList n.chars :=
  latencyLayout.write_numeral (some (.ofNat 0)) rfl (.inl rfl) h

end HealthWatch
