import HealthWatch.Proofs.ReportBody

/-!
# The text of an uptime

The text of an uptime is one to three runs of digits, each in front of its own mark.  Read back
as hours, minutes and seconds it gives the whole seconds again, and there is one text for each
number of them (`Duration.uptime_exact`): minutes and seconds stay below sixty, no run begins
with a needless zero, and the first one is not zero unless there is no other.

`UptimeParts.ofText?` only looks for the marks.  That what it finds is in order is a property of
the parts, `UptimeParts.Canonical`.
-/

namespace HealthWatch

open HealthWatch.Json

/-- The runs of digits of an uptime, each without its mark. -/
structure UptimeParts where
  hours : Option (List Char)
  minutes : Option (List Char)
  seconds : List Char
deriving DecidableEq

namespace UptimeParts

/-! ## Reading -/

/-- Digits in front of a mark, and what follows it. -/
def run? (mark : Char) (cs : List Char) : Option (List Char × List Char) :=
  match cs.dropWhile Char.isDigit with
  | [] => none
  | c :: rest => if c = mark then some (cs.takeWhile Char.isDigit, rest) else none

/-- Digits in front of a mark, if they come next, and what follows. -/
def optionalRun (mark : Char) (cs : List Char) : Option (List Char) × List Char :=
  match run? mark cs with
  | some (ds, rest) => (some ds, rest)
  | none => (none, cs)

/-- The parts of a text. -/
def ofText? (s : String) : Option UptimeParts :=
  let (hours, cs) := optionalRun 'h' s.toList
  let (minutes, cs) := optionalRun 'm' cs
  match run? 's' cs with
  | some (seconds, []) => some ⟨hours, minutes, seconds⟩
  | _ => none

/-- The runs that are there, the first first. -/
def runs (p : UptimeParts) : List (List Char) := p.hours.toList ++ p.minutes.toList ++ [p.seconds]

/-- The number of a part; one that is absent counts nothing. -/
def count (part : Option (List Char)) : Nat := (part.map digitsValue).getD 0

/-- The seconds that all parts come to. -/
def total (p : UptimeParts) : Nat :=
  count p.hours * 3600 + count p.minutes * 60 + digitsValue p.seconds

/-- A number that a word of 64 bits holds. -/
def word? (n : Nat) : Option Nat := if n < Nat.pow 2 64 then some n else none

/-- The seconds that all parts come to, counted in words of 64 bits. -/
def total? (p : UptimeParts) : Option Nat := do
  let hours ← word? (count p.hours)
  let minutes ← word? (count p.minutes)
  let seconds ← word? (digitsValue p.seconds)
  let inHours ← word? (hours * 3600)
  let inMinutes ← word? (minutes * 60)
  let sum ← word? (inHours + inMinutes)
  word? (sum + seconds)

/-- Parts that are written in the one way in which they can be. -/
structure Canonical (p : UptimeParts) : Prop where
  /-- Hours come with minutes. -/
  shape : p.hours.isSome = true → p.minutes.isSome = true
  minutes_lt : count p.minutes < 60
  seconds_lt : digitsValue p.seconds < 60
  /-- The first part is not zero, unless it is all there is. -/
  first : digitsValue (p.runs.headD []) = 0 → p = ⟨none, none, ['0']⟩
  /-- No run begins with a needless zero. -/
  numerals : ∀ ds ∈ p.runs, IsNumeral ds

/-- No step of the count overflows if its result does not. -/
theorem total?_eq {p : UptimeParts} (h : p.total < Nat.pow 2 64) : p.total? = some p.total := by
  have hword : ∀ n, n ≤ p.total → word? n = some n := fun n hn => if_pos (Nat.lt_of_le_of_lt hn h)
  have hhours := hword (count p.hours) (by rw [total]; omega)
  have hminutes := hword (count p.minutes) (by rw [total]; omega)
  have hseconds := hword (digitsValue p.seconds) (by rw [total]; omega)
  have hinHours := hword (count p.hours * 3600) (by rw [total]; omega)
  have hinMinutes := hword (count p.minutes * 60) (by rw [total]; omega)
  have hsum := hword (count p.hours * 3600 + count p.minutes * 60) (by rw [total]; omega)
  have htotal := hword p.total (Nat.le_refl _)
  rw [total] at htotal ⊢
  simp only [total?, Option.bind_eq_bind, Option.bind_some, hhours, hminutes, hseconds, hinHours,
    hinMinutes, hsum, htotal]

/-! ## Reading what was written -/

/-- Digits in front of their mark are a run. -/
theorem run?_toDigits (n : Nat) {mark : Char} (hmark : mark.isDigit = false) (rest : List Char) :
    run? mark (Nat.toDigits 10 n ++ mark :: rest) = some (Nat.toDigits 10 n, rest) := by
  have hhead : ∀ c ∈ (mark :: rest).head?, c.isDigit = false := by simpa using hmark
  have htake := (Digits.ofNat n).takeWhile_append hhead
  have hdrop := (Digits.ofNat n).dropWhile_append hhead
  simp only [Digits.ofNat] at htake hdrop
  simp [run?, htake, hdrop]

/-- A run in front of its mark is there. -/
theorem optionalRun_toDigits (n : Nat) {mark : Char} (hmark : mark.isDigit = false)
    (rest : List Char) :
    optionalRun mark (Nat.toDigits 10 n ++ mark :: rest) = (some (Nat.toDigits 10 n), rest) := by
  rw [optionalRun, run?_toDigits n hmark]

/-- A run in front of another mark is left for that one. -/
theorem optionalRun_other (n : Nat) {mark other : Char} (hother : other.isDigit = false)
    (hne : other ≠ mark) (rest : List Char) :
    optionalRun mark (Nat.toDigits 10 n ++ other :: rest) =
      (none, Nat.toDigits 10 n ++ other :: rest) := by
  have hhead : ∀ c ∈ (other :: rest).head?, c.isDigit = false := by simpa using hother
  have hdrop := (Digits.ofNat n).dropWhile_append hhead
  simp only [Digits.ofNat] at hdrop
  simp [optionalRun, run?, hdrop, hne]

/-- The parts that are written for counts. -/
def ofCounts (hours minutes : Option Nat) (seconds : Nat) : UptimeParts :=
  ⟨hours.map (Nat.toDigits 10), minutes.map (Nat.toDigits 10), Nat.toDigits 10 seconds⟩

/-- The characters of parts, each in front of its mark. -/
def chars (p : UptimeParts) : List Char :=
  p.hours.elim [] (· ++ ['h']) ++ p.minutes.elim [] (· ++ ['m']) ++ p.seconds ++ ['s']

theorem count_toDigits (n : Option Nat) : count (n.map (Nat.toDigits 10)) = n.getD 0 := by
  cases n with
  | none => rfl
  | some n => exact digitsValue_toDigits n

theorem total_ofCounts (hours minutes : Option Nat) (seconds : Nat) :
    (ofCounts hours minutes seconds).total =
      hours.getD 0 * 3600 + minutes.getD 0 * 60 + seconds := by
  simp only [total, ofCounts, count_toDigits, digitsValue_toDigits]

/-- Parts that are written are read, if hours come with minutes. -/
theorem ofText?_ofCounts {hours minutes : Option Nat} {seconds : Nat}
    (hshape : hours.isSome = true → minutes.isSome = true) {s : String}
    (hs : s.toList = (ofCounts hours minutes seconds).chars) :
    ofText? s = some (ofCounts hours minutes seconds) := by
  rw [ofText?, hs]
  cases hours with
  | none =>
      cases minutes with
      | none => simp [ofCounts, chars, optionalRun_other, run?_toDigits]
      | some m => simp [ofCounts, chars, optionalRun_toDigits, optionalRun_other, run?_toDigits]
  | some h =>
      cases minutes with
      | none => simp at hshape
      | some m => simp [ofCounts, chars, optionalRun_toDigits, run?_toDigits]

theorem canonical_ofCounts {hours minutes : Option Nat} {seconds : Nat}
    (hshape : hours.isSome = true → minutes.isSome = true) (hminutes : minutes.getD 0 < 60)
    (hseconds : seconds < 60) (hhours : hours ≠ some 0)
    (hfirst : hours = none → minutes ≠ some 0) :
    (ofCounts hours minutes seconds).Canonical where
  shape := by simpa [ofCounts] using hshape
  minutes_lt := by simpa only [ofCounts, count_toDigits] using hminutes
  seconds_lt := by simpa only [ofCounts, digitsValue_toDigits] using hseconds
  first hzero := by
    cases hours with
    | some h =>
        obtain rfl : h = 0 := by simpa [ofCounts, runs, digitsValue_toDigits] using hzero
        exact absurd rfl hhours
    | none =>
        cases minutes with
        | some m =>
            obtain rfl : m = 0 := by simpa [ofCounts, runs, digitsValue_toDigits] using hzero
            exact absurd rfl (hfirst rfl)
        | none =>
            obtain rfl : seconds = 0 := by
              simpa [ofCounts, runs, digitsValue_toDigits] using hzero
            rfl
  numerals ds hds := by
    simp only [runs, ofCounts, List.mem_append, Option.mem_toList,
      Option.map_eq_some_iff, List.mem_singleton] at hds
    rcases hds with (⟨n, _, rfl⟩ | ⟨n, _, rfl⟩) | rfl
    all_goals exact isNumeral_toDigits _

/-- Parts that are in order are written for their counts. -/
theorem Canonical.eq_ofCounts {p : UptimeParts} (h : p.Canonical) :
    p = ofCounts (p.hours.map digitsValue) (p.minutes.map digitsValue) (digitsValue p.seconds) := by
  obtain ⟨hours, minutes, seconds⟩ := p
  have hpart : ∀ part : Option (List Char), (∀ ds ∈ part, IsNumeral ds) →
      (part.map digitsValue).map (Nat.toDigits 10) = part := by
    intro part hall
    cases part with
    | none => rfl
    | some ds => exact congrArg some (hall ds rfl).toDigits_eq
  have hhours := hpart hours fun ds hds => h.numerals ds (by simp_all [runs])
  have hminutes := hpart minutes fun ds hds => h.numerals ds (by simp_all [runs])
  have hseconds := (h.numerals seconds (by simp [runs])).toDigits_eq
  simp only [ofCounts, hhours, hminutes, hseconds]

end UptimeParts

namespace Duration

/-- The parts that the uptime of a span is written in. -/
def uptimeParts (d : Duration) : UptimeParts :=
  if 3600 ≤ d.secs then
    .ofCounts (some (d.secs / 3600)) (some (d.secs % 3600 / 60)) (d.secs % 60)
  else if 60 ≤ d.secs then .ofCounts none (some (d.secs / 60)) (d.secs % 60)
  else .ofCounts none none d.secs

/-- The characters of an uptime are its parts in front of their marks. -/
theorem toList_uptime (d : Duration) : d.uptime.toList = d.uptimeParts.chars := by
  have hmark : ∀ mark : String, toString mark = mark := fun _ => rfl
  unfold uptime uptimeParts
  dsimp only
  by_cases hhours : 3600 ≤ d.secs
  · rw [if_pos (by omega), if_pos hhours]
    simp [hmark, UptimeParts.chars, UptimeParts.ofCounts]
  · rw [if_neg (by omega), if_neg hhours]
    have hrest : d.secs % 3600 = d.secs := Nat.mod_eq_of_lt (by omega)
    by_cases hminutes : 60 ≤ d.secs
    · rw [if_pos (by omega), if_pos hminutes, hrest]
      simp [hmark, UptimeParts.chars, UptimeParts.ofCounts]
    · rw [if_neg (by omega), if_neg hminutes, Nat.mod_eq_of_lt (by omega)]
      simp [hmark, UptimeParts.chars, UptimeParts.ofCounts]

/-- An uptime is read as the parts that it is written in. -/
theorem ofText?_uptime (d : Duration) : UptimeParts.ofText? d.uptime = some d.uptimeParts := by
  have hchars := d.toList_uptime
  unfold uptimeParts at hchars ⊢
  split at hchars
  · next hhours =>
    rw [if_pos hhours]
    exact UptimeParts.ofText?_ofCounts (fun _ => rfl) hchars
  · next hhours =>
    rw [if_neg hhours]
    split at hchars
    · next hminutes =>
      rw [if_pos hminutes]
      exact UptimeParts.ofText?_ofCounts (fun _ => rfl) hchars
    · next hminutes =>
      rw [if_neg hminutes]
      exact UptimeParts.ofText?_ofCounts (fun h => h) hchars

/-- The parts of an uptime come to its whole seconds. -/
theorem total_uptimeParts (d : Duration) : d.uptimeParts.total = d.secs := by
  unfold uptimeParts
  split
  · simp only [UptimeParts.total_ofCounts, Option.getD_some]
    omega
  · split
    · simp only [UptimeParts.total_ofCounts, Option.getD_some, Option.getD_none]
      omega
    · simp only [UptimeParts.total_ofCounts, Option.getD_none]
      omega

/-- The parts of an uptime are in order. -/
theorem canonical_uptimeParts (d : Duration) : d.uptimeParts.Canonical := by
  unfold uptimeParts
  split
  · next hhours =>
    refine UptimeParts.canonical_ofCounts (fun _ => rfl) ?_ (Nat.mod_lt _ (by decide)) ?_ nofun
    · simp only [Option.getD_some]
      omega
    · simp only [ne_eq, Option.some.injEq]
      omega
  · next hhours =>
    split
    · next hminutes =>
      refine UptimeParts.canonical_ofCounts (fun _ => rfl) ?_ (Nat.mod_lt _ (by decide)) nofun
        fun _ => ?_
      · simp only [Option.getD_some]
        omega
      · simp only [ne_eq, Option.some.injEq]
        omega
    · next hminutes =>
      exact UptimeParts.canonical_ofCounts (fun h => h) (by decide) (by omega) nofun nofun

/-- There is no other way to write a number of seconds. -/
theorem eq_uptimeParts {p : UptimeParts} (hp : p.Canonical) {d : Duration}
    (htotal : p.total = d.secs) : p = d.uptimeParts := by
  rw [hp.eq_ofCounts]
  obtain ⟨hours, minutes, seconds⟩ := p
  have hshape := hp.shape
  have hfirst := hp.first
  have hminutes := hp.minutes_lt
  have hseconds := hp.seconds_lt
  cases hours with
  | some h =>
      obtain ⟨m, rfl⟩ := Option.isSome_iff_exists.mp (hshape rfl)
      have hpos : digitsValue h ≠ 0 := fun hzero => by cases hfirst hzero
      simp only [UptimeParts.total, UptimeParts.count, Option.map_some, Option.getD_some] at *
      rw [uptimeParts, if_pos (by omega)]
      congr 2 <;> omega
  | none =>
      cases minutes with
      | some m =>
          have hpos : digitsValue m ≠ 0 := fun hzero => by cases hfirst hzero
          simp only [UptimeParts.total, UptimeParts.count, Option.map_some, Option.map_none,
            Option.getD_some, Option.getD_none] at *
          rw [uptimeParts, if_neg (by omega), if_pos (by omega)]
          congr 2 <;> omega
      | none =>
          simp only [UptimeParts.total, UptimeParts.count, Option.map_none, Option.getD_none] at *
          rw [uptimeParts, if_neg (by omega), if_neg (by omega)]
          congr 2
          omega

/-- **The text of an uptime is exact and canonical.**  Every uptime is written in the one way
in which its whole seconds can be, and read back it gives them again, without an overflow of 64
bits if they have none.  So two spans have one text exactly if they have the same whole seconds;
and the two places in which the body of a health answer tells the uptime tell the same number. -/
theorem uptime_exact :
    (∀ d : Duration, ∃ p, UptimeParts.ofText? d.uptime = some p ∧ d.uptime.toList = p.chars ∧
      p.Canonical ∧ p.total = d.secs ∧ (d.secs < Nat.pow 2 64 → p.total? = some d.secs) ∧
      ∀ q : UptimeParts, q.Canonical → q.total = d.secs → q = p) ∧
    (∀ c d : Duration, c.uptime = d.uptime ↔ c.secs = d.secs) ∧
    ∀ (stamp : Instant → String) (r : Report), r.uptime.secs < Nat.pow 2 64 →
      ∃ body, Digest.ofBody? (r.body stamp) = some body ∧
        (UptimeParts.ofText? body.uptime).bind (·.total?) = some body.uptimeSeconds := by
  have htotal : ∀ d : Duration, d.secs < Nat.pow 2 64 → d.uptimeParts.total? = some d.secs := by
    intro d hd
    rw [← d.total_uptimeParts] at hd ⊢
    exact UptimeParts.total?_eq hd
  refine ⟨fun d => ⟨d.uptimeParts, d.ofText?_uptime, d.toList_uptime, d.canonical_uptimeParts,
    d.total_uptimeParts, htotal d, fun q hq => eq_uptimeParts hq⟩, fun c d => ⟨fun h => ?_,
      fun h => ?_⟩, fun stamp r hr => ?_⟩
  · have hparts : c.uptimeParts = d.uptimeParts := by
      have hsome := c.ofText?_uptime
      rw [h, d.ofText?_uptime] at hsome
      exact (Option.some.inj hsome).symm
    rw [← c.total_uptimeParts, hparts, d.total_uptimeParts]
  · rw [uptime, uptime, h]
  · refine ⟨r.digest stamp, r.digest_of_body stamp, ?_⟩
    change (UptimeParts.ofText? r.uptime.uptime).bind _ = some r.uptime.secs
    rw [r.uptime.ofText?_uptime, Option.bind_some, htotal _ hr]

/-- The longest span that is told, a nanosecond short of 2^64 seconds. -/
def longest : Duration := .ofParts 18446744073709551615 999999999

theorem longest_uptime_exact : longest.secs < Nat.pow 2 64 ∧
    (UptimeParts.ofText? longest.uptime).bind (·.total?) = some 18446744073709551615 ∧
    ∃ body, Digest.ofBody? ((minioReport longest).body toString) = some body ∧
      (UptimeParts.ofText? body.uptime).bind (·.total?) = some body.uptimeSeconds := by
  have hsecs : longest.secs < Nat.pow 2 64 := by decide
  obtain ⟨hexact, _, hbody⟩ := uptime_exact
  obtain ⟨p, hread, _, _, _, htotal, _⟩ := hexact longest
  refine ⟨hsecs, ?_, hbody toString (minioReport longest) hsecs⟩
  rw [hread, Option.bind_some, htotal hsecs]
  rfl

end Duration

end HealthWatch
