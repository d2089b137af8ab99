import HealthWatch.Proofs.ExpositionReading
import HealthWatch.Proofs.LatencyText

/-!
# The values of samples

Whatever a sample counts or measures, its value is written as a number that a reader of
expositions takes: a count by its digits (`count_plain`), and a double as a numeral without an
exponent, as an infinity or as none (`double_plain`).
-/

namespace HealthWatch

open HealthWatch.Json

/-! ## Numerals are numbers -/

/-- The power of ten of a numeral is read. -/
theorem exponentOf?_powerChars (n : Numeral) : ∃ e, exponentOf? n.powerChars = some e := by
  unfold Numeral.powerChars
  split
  · next negative ds _ =>
    have hdigits : (ds.chars.isEmpty || !ds.chars.all Char.isDigit) = false := by
      rw [List.all_eq_true.mpr ds.all_digits, List.isEmpty_eq_false_iff.mpr ds.ne_nil]
      rfl
    cases negative <;> simp [exponentOf?, hdigits]
  · exact ⟨0, rfl⟩

/-- The digits of a numeral are split into its parts. -/
theorem parts_numeral (n : Numeral) :
    ∃ parts, NumberParts.of? (n.whole.chars ++ (n.pointChars ++ n.powerChars)) = some parts := by
  obtain ⟨e, he⟩ := exponentOf?_powerChars n
  have hpower : ∀ c ∈ n.powerChars.head?, c.isDigit = false := by
    unfold Numeral.powerChars
    split
    · intro c hc
      obtain rfl : 'e' = c := by simpa using hc
      decide
    · intro c hc
      cases hc
  have hpoint : ∀ c ∈ (n.pointChars ++ n.powerChars).head?, c.isDigit = false := by
    unfold Numeral.pointChars
    split
    · intro c hc
      obtain rfl : '.' = c := by simpa using hc
      decide
    · exact hpower
  have hwhole : n.whole.chars.isEmpty = false := List.isEmpty_eq_false_iff.mpr n.whole.ne_nil
  rw [NumberParts.of?, n.whole.takeWhile_append hpoint, n.whole.dropWhile_append hpoint]
  cases hdecimals : n.decimals with
  | some ds =>
      have hchars : n.pointChars = '.' :: ds.chars := by rw [Numeral.pointChars, hdecimals]
      simp [hchars, hwhole, ds.takeWhile_append hpower, ds.dropWhile_append hpower, he]
  | none =>
      have hchars : n.pointChars = [] := by rw [Numeral.pointChars, hdecimals]
      rw [hchars, List.nil_append]
      split
      next hsplit =>
      split at hsplit
      · -- a power begins with its own mark, so it has no point
        next hdot =>
        rw [hdot] at he
        cases he
      · cases hsplit
        simp [hwhole, he]

/-- A numeral is a number, with and without a sign. -/
theorem floatOfText?_numeral (n : Numeral) :
    (floatOfText? (String.ofList n.chars)).isSome = true := by
  obtain ⟨parts, hparts⟩ := parts_numeral n
  cases hsign : n.negative with
  | true =>
      have hchars : n.chars = '-' :: (n.whole.chars ++ (n.pointChars ++ n.powerChars)) := by
        simp [Numeral.chars, hsign]
      rw [floatOfText?, String.toList_ofList, hchars]
      simp [hparts]
  | false =>
      have hchars : n.chars = n.whole.chars ++ (n.pointChars ++ n.powerChars) := by
        simp [Numeral.chars, hsign]
      obtain ⟨c, cs, hcs⟩ := List.exists_cons_of_ne_nil n.whole.ne_nil
      have hdigit : c.isDigit = true := n.whole.all_digits c (hcs ▸ List.mem_cons_self)
      have hminus : c ≠ '-' := by
        rintro rfl
        cases hdigit
      have hplus : c ≠ '+' := by
        rintro rfl
        cases hdigit
      rw [hcs, List.cons_append] at hchars hparts
      rw [floatOfText?, String.toList_ofList, hchars]
      simp [hminus, hplus, hparts]

/-- What stands in a numeral may stand in a value. -/
theorem numeral_valueChar {n : Numeral} : ∀ c ∈ n.chars, Exposition.isValueChar c = true := by
  have hdigits : ∀ ds : Digits, ∀ c ∈ ds.chars, Exposition.isValueChar c = true := by
    intro ds c hc
    simp [Exposition.isValueChar, Char.isAlphanum, ds.all_digits c hc]
  intro c hc
  simp only [Numeral.chars, Numeral.pointChars, Numeral.powerChars, List.mem_append] at hc
  rcases hc with ((hsign | hwhole) | hpoint) | hpower
  · split at hsign
    · rw [List.mem_singleton.mp hsign]
      decide
    · cases hsign
  · exact hdigits _ c hwhole
  · split at hpoint
    · rcases List.mem_cons.mp hpoint with rfl | hc
      · decide
      · exact hdigits _ c hc
    · cases hpoint
  · split at hpower
    · rcases List.mem_cons.mp hpower with rfl | hc
      · decide
      rcases List.mem_cons.mp hc with rfl | hc
      · split <;> decide
      · exact hdigits _ c hc
    · cases hpower

theorem numeral_plain (n : Numeral) : Exposition.PlainValue (String.ofList n.chars) where
  number := by rw [Exposition.isNumber, floatOfText?_numeral n, Bool.true_or]
  chars := by
    rw [String.toList_ofList]
    exact numeral_valueChar

/-! ## Counts and doubles -/

/-- A count is a number. -/
theorem count_plain (n : Nat) : Exposition.PlainValue (toString n) := by
  obtain ⟨m, hm⟩ := count_numeral n
  rw [hm]
  exact numeral_plain m

/-- A double is a number, and if it is none or infinite it is spelled as such. -/
theorem double_plain (x : Float) : Exposition.PlainValue (sampleLayout.write x) := by
  cases h : Binary.ofFloat x with
  | notANumber =>
      have htext : sampleLayout.write x = "NaN" := by rw [NumberLayout.write, h]; rfl
      rw [htext]
      exact ⟨by decide, List.all_eq_true.mp (by decide)⟩
  | infinite negative =>
      have htext : sampleLayout.write x = if negative then "-inf" else "inf" := by
        rw [NumberLayout.write, h]
        rfl
      rw [htext]
      cases negative
      · exact ⟨by decide, List.all_eq_true.mp (by decide)⟩
      · exact ⟨by decide, List.all_eq_true.mp (by decide)⟩
  | finite negative mantissa exponent =>
      obtain ⟨n, hn⟩ := sampleLayout.write_numeral none rfl (.inr fun _ => rfl) h
      rw [hn]
      exact numeral_plain n

end HealthWatch
