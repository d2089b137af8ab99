import HealthWatch.Proofs.DigitRuns

/-!
# The exact text of a span

The text of a span is a number in one of four units.  Its decimals are those of the unit without
the zeros that end them, so they stand for the nanoseconds that the whole part leaves
(`decimals_trimZeros`), and a reader that knows how many decimals the unit has gets the span
back (`ofText?_text`).  It does not matter to it which unit was chosen.
-/

namespace HealthWatch.Duration

open HealthWatch.Json

/-! ## Reading -/

/-- The units that spans are told in. -/
inductive TimeUnit where
  | seconds
  | millis
  | micros
  | nanos

namespace TimeUnit

/-- How many decimals of a unit it takes to tell a nanosecond. -/
def places : TimeUnit → Nat
  | .seconds => 9
  | .millis => 6
  | .micros => 3
  | .nanos => 0

/-- The mark of a unit. -/
def mark : TimeUnit → List Char
  | .seconds => ['s']
  | .millis => ['m', 's']
  | .micros => ['µ', 's']
  | .nanos => ['n', 's']

/-- The unit of a mark. -/
def ofMark? : List Char → Option TimeUnit
  | ['s'] => some .seconds
  | ['m', 's'] => some .millis
  | ['µ', 's'] => some .micros
  | ['n', 's'] => some .nanos
  | _ => none

theorem ofMark?_mark (u : TimeUnit) : ofMark? u.mark = some u := by cases u <;> rfl

/-- A mark does not begin as a number goes on. -/
theorem mark_head (u : TimeUnit) : ∀ c ∈ u.mark.head?, c.isDigit = false ∧ c ≠ '.' := by
  cases u <;> simp [mark]

end TimeUnit

/-- Digits behind a point, if there is one, and what follows them. -/
def splitDecimals (cs : List Char) : List Char × List Char :=
  match cs with
  | '.' :: rest => (rest.takeWhile Char.isDigit, rest.dropWhile Char.isDigit)
  | rest => ([], rest)

/-- The span of a text: digits, perhaps a point and decimals, and a unit that has as many. -/
def ofText? (s : String) : Option Duration :=
  let whole := s.toList.takeWhile Char.isDigit
  let (decimals, mark) := splitDecimals (s.toList.dropWhile Char.isDigit)
  (TimeUnit.ofMark? mark).bind fun u =>
    if whole ≠ [] ∧ decimals.length ≤ u.places then
      some ⟨digitsValue whole * 10 ^ u.places +
        digitsValue decimals * 10 ^ (u.places - decimals.length)⟩
    else none

/-! ## Decimals -/

theorem length_fixedDigits (places n : Nat) : (fixedDigits places n).length = places := by
  induction places generalizing n with
  | zero => rfl
  | succ places ih => rw [fixedDigits, List.length_append, ih, List.length_singleton]

theorem isDigit_fixedDigits {places n : Nat} : ∀ c ∈ fixedDigits places n, c.isDigit = true := by
  induction places generalizing n with
  | zero => exact fun c hc => absurd hc List.not_mem_nil
  | succ places ih =>
      intro c hc
      rcases List.mem_append.mp hc with hc | hc
      · exact ih c hc
      · have hdigit : ∀ k < 10, (Nat.digitChar k).isDigit = true := by decide
        rw [List.mem_singleton.mp hc]
        exact hdigit _ (Nat.mod_lt _ (by decide))

/-- Digits of a fixed number stand for the last places of a number. -/
theorem digitsValue_fixedDigits (places n : Nat) :
    digitsValue (fixedDigits places n) = n % 10 ^ places := by
  induction places generalizing n with
  | zero => simp [fixedDigits, digitsValue, Nat.mod_one]
  | succ places ih =>
      have hlast : (Nat.digitChar (n % 10)).toNat - 48 = n % 10 :=
        Nat.toNat_digitChar_sub_48_of_lt_ten (Nat.mod_lt _ (by decide))
      rw [fixedDigits, digitsValue_append, digitsValue_single, hlast, ih, List.length_singleton,
        pow_one, Nat.pow_succ', Nat.mod_mul, Nat.add_comm]

/-- What is trimmed off decimals are zeros. -/
theorem trimZeros_append (ds : List Char) :
    ds = trimZeros ds ++ List.replicate (ds.length - (trimZeros ds).length) '0' := by
  have hsplit : ds = trimZeros ds ++ (ds.reverse.takeWhile (· == '0')).reverse := by
    rw [trimZeros, ← List.reverse_append, List.takeWhile_append_dropWhile, List.reverse_reverse]
  have hzeros : (ds.reverse.takeWhile (· == '0')).reverse =
      List.replicate (ds.length - (trimZeros ds).length) '0' := by
    refine List.eq_replicate_iff.mpr ⟨?_, fun c hc => ?_⟩
    · have hlength := congrArg List.length hsplit
      rw [List.length_append] at hlength
      omega
    · have hzero := List.mem_takeWhile_imp (List.mem_reverse.mp hc)
      simpa using hzero
  rw [← hzeros]
  exact hsplit

/-- Trimmed decimals still stand for the number that they were made of. -/
theorem decimals_trimZeros {places n : Nat} (hn : n < 10 ^ places) :
    let ds := trimZeros (fixedDigits places n)
    (∀ c ∈ ds, c.isDigit = true) ∧ ds.length ≤ places ∧
      digitsValue ds * 10 ^ (places - ds.length) = n := by
  intro ds
  have happend := trimZeros_append (fixedDigits places n)
  have hvalue := digitsValue_fixedDigits places n
  rw [length_fixedDigits] at happend
  refine ⟨fun c hc => ?_, ?_, ?_⟩
  · refine @isDigit_fixedDigits places n c ?_
    rw [happend]
    exact List.mem_append_left _ hc
  · have hlength := congrArg List.length happend
    rw [length_fixedDigits, List.length_append] at hlength
    exact Nat.le.intro hlength.symm
  · rw [happend, digitsValue_zeros, Nat.mod_eq_of_lt hn] at hvalue
    rw [Nat.mul_comm]
    exact hvalue

/-! ## Reading what was written -/

/-- Decimals with their point, if there are any. -/
def pointChars (ds : List Char) : List Char := if ds = [] then [] else '.' :: ds

theorem toList_decimal (places whole part : Nat) : (decimal places whole part).toList =
    Nat.toDigits 10 whole ++ pointChars (trimZeros (fixedDigits places part)) := by
  unfold decimal
  split
  · next hnone => simp [pointChars, hnone]
  · next hsome =>
    rw [pointChars, if_neg hsome]
    simp

/-- Decimals in front of the mark of a unit are split off. -/
theorem splitDecimals_append {ds : List Char} (hds : ∀ c ∈ ds, c.isDigit = true) (u : TimeUnit) :
    splitDecimals (pointChars ds ++ u.mark) = (ds, u.mark) := by
  have hmark := u.mark_head
  by_cases hnone : ds = []
  · have hpoint : ∀ rest, u.mark ≠ '.' :: rest := fun rest heq =>
      (hmark '.' (by rw [heq, List.head?_cons]; rfl)).2 rfl
    rw [pointChars, if_pos hnone, List.nil_append, hnone]
    unfold splitDecimals
    split
    · next rest heq => exact absurd heq (hpoint rest)
    · rfl
  · let digits : Digits := ⟨ds, hnone, hds⟩
    have hhead : ∀ c ∈ u.mark.head?, c.isDigit = false := fun c hc => (hmark c hc).1
    have htake := digits.takeWhile_append hhead
    have hdrop := digits.dropWhile_append hhead
    rw [pointChars, if_neg hnone, List.cons_append, splitDecimals, htake, hdrop]

/-- A number in a unit is read. -/
theorem ofText?_decimal {u : TimeUnit} {whole part : Nat} (hpart : part < 10 ^ u.places)
    {s : String} (hs : s.toList = (decimal u.places whole part).toList ++ u.mark) :
    ofText? s = some ⟨whole * 10 ^ u.places + part⟩ := by
  obtain ⟨hdigits, hlength, hvalue⟩ := decimals_trimZeros hpart
  rw [toList_decimal, List.append_assoc] at hs
  generalize trimZeros (fixedDigits u.places part) = ds at hs hdigits hlength hvalue
  have hhead : ∀ c ∈ (pointChars ds ++ u.mark).head?, c.isDigit = false := by
    intro c hc
    unfold pointChars at hc
    split at hc
    · exact (u.mark_head c hc).1
    · cases hc
      rfl
  have htake := (Digits.ofNat whole).takeWhile_append hhead
  have hdrop := (Digits.ofNat whole).dropWhile_append hhead
  simp only [Digits.ofNat] at htake hdrop
  rw [ofText?, hs, htake, hdrop, splitDecimals_append hdigits]
  simp only [TimeUnit.ofMark?_mark, Option.bind_some]
  rw [if_pos ⟨Nat.toDigits_ne_nil, hlength⟩, digitsValue_toDigits, hvalue]

/-- The unit that a span is told in, and how it is told in it. -/
theorem exists_unit (d : Duration) : ∃ u : TimeUnit, d.text.toList =
    (decimal u.places (d.nanos / 10 ^ u.places) (d.nanos % 10 ^ u.places)).toList ++ u.mark := by
  unfold text
  split
  · exact ⟨.seconds, String.toList_append⟩
  · split
    · exact ⟨.millis, String.toList_append⟩
    · split
      · exact ⟨.micros, String.toList_append⟩
      · refine ⟨.nanos, ?_⟩
        simp [TimeUnit.places, TimeUnit.mark, decimal, fixedDigits, trimZeros]

/-- The text of a span is read as the span. -/
theorem ofText?_text (d : Duration) : ofText? d.text = some d := by
  obtain ⟨u, hu⟩ := d.exists_unit
  have hpos : 0 < 10 ^ u.places := Nat.pow_pos (by decide)
  rw [ofText?_decimal (Nat.mod_lt _ hpos) hu, Nat.div_add_mod']

end HealthWatch.Duration
