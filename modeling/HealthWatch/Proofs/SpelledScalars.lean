import HealthWatch.Json.Document
import HealthWatch.Proofs.Presentation
import HealthWatch.Proofs.SplitText
import HealthWatch.Yaml.Scalar

/-!
# How scalars are spelled

A value by itself and what a reader gets that wants a value of its kind are the same, in JSON
by construction (`Json.presents`) and in YAML for scalars without a tag (`Yaml.presents`).  In
YAML a reader of texts gets the spelling of a number or a flag, too; but no such spelling is an
address or the name of a format (`Yaml.spelling_unfit`).
-/

namespace HealthWatch

open HealthWatch.Document

/-- The kinds of values that both languages have. -/
def Document.Value.IsPlain : Document.Value → Prop
  | .flag _ | .natural _ | .signed _ | .text _ => True
  | .null | .fraction => False

/-- In JSON a value is what every reader gets. -/
theorem Json.presents (value : Document.Value) : (Json.scalarOfValue value).Presents value where
  value_eq := rfl
  natural_eq := by cases value <;> rfl
  flag_eq := by cases value <;> rfl
  text_eq t h := by
    subst h
    exact ⟨rfl, rfl⟩
  blank_eq _ := rfl

namespace Yaml

variable {style : ScalarStyle} {s : String} {value : Document.Value}

/-- What spells that there is nothing is no count and no flag. -/
theorem not_spelled_of_null (h : (s.isEmpty || isNull s) = true) :
    naturalOf? s = none ∧ flagOf? s = none := by
  have hspelling : s = "" ∨ s = "null" ∨ s = "Null" ∨ s = "NULL" ∨ s = "~" := by
    simpa [isNull] using h
  rcases hspelling with rfl | rfl | rfl | rfl | rfl <;> decide +kernel

/-- There are six spellings of flags. -/
theorem spelling_of_flag {b : Bool} (h : flagOf? s = some b) :
    s ∈ ["true", "True", "TRUE", "false", "False", "FALSE"] := by
  unfold flagOf? at h
  split at h
  · next hs =>
      rw [List.contains_iff_mem] at hs
      exact List.mem_append_left ["false", "False", "FALSE"] hs
  · split at h
    · next hs =>
        rw [List.contains_iff_mem] at hs
        exact List.mem_append_right ["true", "True", "TRUE"] hs
    · cases h

/-- A flag is no count. -/
theorem naturalOf?_of_flag {b : Bool} (h : flagOf? s = some b) : naturalOf? s = none := by
  have hspelling := spelling_of_flag h
  simp only [List.mem_cons, List.not_mem_nil, or_false] at hspelling
  rcases hspelling with rfl | rfl | rfl | rfl | rfl | rfl <;> decide +kernel

/-- What is no whole number of 64 bits without a sign is no count. -/
theorem natural_of_whole : (naturalOf? s).filter (· < Nat.pow 2 64) =
    (wholeValue? s).join.bind Document.Value.natural? := by
  unfold wholeValue? sized?
  cases hnatural : naturalOf? s with
  | some n =>
      by_cases hsmall : n < Nat.pow 2 64
      · simp only [if_pos hsmall, Option.filter_some, decide_eq_true hsmall, if_true]
        rfl
      · simp only [if_neg hsmall, Option.filter_some, decide_eq_false hsmall, Bool.false_eq_true,
          if_false]
        split <;> rfl
  | none =>
      cases hnegated : negatedOf? s with
      | none => rfl
      | some n =>
          simp only
          split
          · rfl
          · split <;> rfl

/-- A whole number is no flag and no text. -/
theorem whole_kind (h : wholeValue? s = some (some value)) :
    (∃ n, value = .natural n) ∨ ∃ n, value = .signed n := by
  have hsized : ∀ {small large n : Nat} {v : Document.Value},
      sized? small large n v = some (some value) → value = v := by
    intro small large n v h
    unfold sized? at h
    split at h
    · exact (Option.some.inj (Option.some.inj h)).symm
    · split at h <;> cases h
  unfold wholeValue? at h
  split at h
  · exact .inl ⟨_, hsized h⟩
  · exact .inr ⟨_, hsized h⟩
  · cases h

/-- What a plain scalar is by itself is what readers of counts, flags and texts get. -/
theorem plain_readers (h : plainValue? s = some value) :
    (naturalOf? s).filter (· < Nat.pow 2 64) = value.natural? ∧ flagOf? s = value.flag? ∧
      ∀ t, value = .text t → s = t := by
  unfold plainValue? at h
  split at h
  · next hnull =>
      obtain ⟨hnatural, hflag⟩ := not_spelled_of_null hnull
      cases h
      rw [hnatural]
      exact ⟨rfl, hflag, nofun⟩
  · cases hflag : flagOf? s with
    | some b =>
        rw [hflag] at h
        cases h
        rw [naturalOf?_of_flag hflag]
        exact ⟨rfl, rfl, nofun⟩
    | none =>
        rw [natural_of_whole]
        rw [hflag] at h
        cases hwhole : wholeValue? s with
        | some v =>
            simp only [hwhole] at h
            subst h
            rcases whole_kind hwhole with ⟨n, rfl⟩ | ⟨n, rfl⟩
            · exact ⟨rfl, rfl, nofun⟩
            · exact ⟨rfl, rfl, nofun⟩
        | none =>
            simp only [hwhole, Option.some.injEq] at h
            subst h
            split
            · exact ⟨rfl, rfl, nofun⟩
            · exact ⟨rfl, rfl, fun t ht => Document.Value.text.inj ht⟩

/-- In YAML the value that a scalar without a tag is by itself is what every reader gets. -/
theorem presents (h : scalarValue? none style s = some value) :
    (scalarOf none style s).Presents value := by
  by_cases hstyle : style = .plain
  · subst hstyle
    have hplain : plainValue? s = some value := h
    obtain ⟨hnatural, hflag, htext⟩ := plain_readers hplain
    refine ⟨h, hnatural, hflag, ?_, ?_⟩
    · intro t ht
      rw [htext t ht]
      exact ⟨rfl, rfl⟩
    · intro hnull
      have hnonempty : s.isEmpty = false := by
        refine Bool.eq_false_iff.mpr fun hempty => hnull ?_
        rw [plainValue?, hempty, Bool.true_or, if_pos rfl] at hplain
        exact (Option.some.inj hplain).symm
      simp [scalarOf, hnonempty]
  · have htext : value = .text s := by
      rw [scalarValue?, if_neg hstyle] at h
      exact (Option.some.inj h).symm
    subst htext
    refine ⟨h, ?_, ?_, ?_, ?_⟩
    · simp [scalarOf, isSpelled, hstyle, Document.Value.natural?]
    · simp [scalarOf, isSpelled, hstyle, Document.Value.flag?]
    · intro t ht
      cases ht
      exact ⟨rfl, rfl⟩
    · intro _
      simp [scalarOf, hstyle]

/-! ### What numbers and flags are spelled with -/

/-- What is no digit is not among digits. -/
theorem not_mem_of_digitsIn? {base n : Nat} {cs : List Char} (h : digitsIn? base cs = some n)
    {c : Char} (hc : Net.hexDigit? c = none) : c ∉ cs := by
  have hfold : ∀ (cs : List Char) (start : Nat),
      (cs.foldlM (fun n c => ((Net.hexDigit? c).filter (· < base)).map (base * n + ·)) start :
        Option Nat).isSome = true → c ∉ cs := by
    intro cs
    induction cs with
    | nil => exact fun _ _ => List.not_mem_nil
    | cons d cs ih =>
        intro start hsome hmem
        rw [List.foldlM_cons] at hsome
        cases hd : ((Net.hexDigit? d).filter (· < base)).map (base * start + ·) with
        | none =>
            rw [hd] at hsome
            cases hsome
        | some next =>
            rw [hd] at hsome
            rcases List.mem_cons.mp hmem with rfl | hmem
            · rw [hc] at hd
              cases hd
            · exact ih next hsome hmem
  unfold digitsIn? at h
  split at h
  · cases h
  · exact hfold cs 0 (by rw [h]; rfl)

/-- A number is spelled with digits and the letters of its base. -/
theorem not_mem_of_magnitude? {cs : List Char} {n : Nat} (h : magnitude? cs = some n) {c : Char}
    (hc : Net.hexDigit? c = none) (hbase : c ∉ ['x', 'o', 'b']) (hzero : c ≠ '0') : c ∉ cs := by
  have hletters : c ≠ 'x' ∧ c ≠ 'o' ∧ c ≠ 'b' := by simpa using hbase
  have hdecimal : (if hasNeedlessZero cs then none else digitsIn? 10 cs) = some n → c ∉ cs := by
    intro h
    obtain ⟨_, hdigits⟩ := Option.ite_none_left_eq_some.mp h
    exact not_mem_of_digitsIn? hdigits hc
  have hbased : ∀ {base : Nat} {mark : Char} {ds : List Char}, digitsIn? base ds = some n →
      c ≠ mark → c ∉ '0' :: mark :: ds := by
    intro base mark ds hdigits hmark
    exact List.not_mem_cons_of_ne_of_not_mem hzero
      (List.not_mem_cons_of_ne_of_not_mem hmark (not_mem_of_digitsIn? hdigits hc))
  unfold magnitude? at h
  extract_lets decimal? at h
  split at h
  · exact hbased h hletters.1
  · exact hbased h hletters.2.1
  · exact hbased h hletters.2.2
  · exact hdecimal h

/-- A whole number is spelled with digits, the letters of its base and signs. -/
theorem not_mem_of_whole {v : Option Document.Value} (h : wholeValue? s = some v) {c : Char}
    (hc : Net.hexDigit? c = none) (hbase : c ∉ ['x', 'o', 'b', '0', '+', '-']) : c ∉ s.toList := by
  have hmarks : c ∉ ['x', 'o', 'b'] ∧ c ≠ '0' ∧ c ≠ '+' ∧ c ≠ '-' := by
    simpa [and_assoc] using hbase
  obtain ⟨hletters, hzero, hplus, hminus⟩ := hmarks
  have hsigned : ∀ {n : Nat} {cs : List Char} {sign : Char}, magnitude? cs = some n → c ≠ sign →
      c ∉ sign :: cs := fun hcs hsign =>
    List.not_mem_cons_of_ne_of_not_mem hsign (not_mem_of_magnitude? hcs hc hletters hzero)
  unfold wholeValue? at h
  split at h
  · next n _ hnatural =>
      unfold naturalOf? at hnatural
      split at hnatural
      · next cs hs => exact hs ▸ hsigned hnatural hplus
      · exact not_mem_of_magnitude? hnatural hc hletters hzero
  · next n hnegated =>
      unfold negatedOf? at hnegated
      split at hnegated
      · next cs hs => exact hs ▸ hsigned hnegated hminus
      · cases hnegated
  · cases h

/-- What spells a number or a flag is no address and names no format. -/
theorem spelling_unfit (hvalue : scalarValue? none style s = some value) (hplain : value.IsPlain)
    (htext : ∀ t, value ≠ .text t) :
    Net.SocketAddress.ofText? s = none ∧ LogFormat.ofName? s = none := by
  have h : plainValue? s = some value := by
    rw [scalarValue?] at hvalue
    split at hvalue
    · exact hvalue
    · exact absurd (Option.some.inj hvalue).symm (htext s)
  have hspelled : (∃ b, flagOf? s = some b) ∨ ∃ v, wholeValue? s = some v := by
    unfold plainValue? at h
    split at h
    · cases h
      exact hplain.elim
    · cases hflag : flagOf? s with
      | some b => exact .inl ⟨b, rfl⟩
      | none =>
          cases hwhole : wholeValue? s with
          | some v => exact .inr ⟨v, rfl⟩
          | none =>
              simp only [hflag, hwhole, Option.some.injEq] at h
              split at h
              · subst h
                exact hplain.elim
              · exact absurd h.symm (htext s)
  rcases hspelled with ⟨b, hflag⟩ | ⟨v, hwhole⟩
  · have hspelling := spelling_of_flag hflag
    simp only [List.mem_cons, List.not_mem_nil, or_false] at hspelling
    rcases hspelling with rfl | rfl | rfl | rfl | rfl | rfl <;>
      exact ⟨Net.SocketAddress.ofText?_of_not_mem (by decide) (by decide), by decide⟩
  · have hcolon : ':' ∉ s.toList := not_mem_of_whole hwhole (by decide) (by decide)
    have hbracket : '[' ∉ s.toList := not_mem_of_whole hwhole (by decide) (by decide)
    have hname : ∀ name, wholeValue? name = none → s ≠ name := by
      rintro name hnone rfl
      rw [hnone] at hwhole
      cases hwhole
    refine ⟨Net.SocketAddress.ofText?_of_not_mem hcolon fun hhead => ?_, ?_⟩
    · exact hbracket (List.mem_of_head? hhead)
    · rw [LogFormat.ofName?, if_neg (hname _ (by decide +kernel)),
        if_neg (hname _ (by decide +kernel))]

end Yaml

end HealthWatch
