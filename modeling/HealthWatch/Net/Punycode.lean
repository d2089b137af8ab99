/-!
# Punycode

RFC 3492 writes a label with letters outside ASCII as a label of ASCII: first
its ASCII characters, then the places and the numbers of the others, in
increasing order of the number.  Each of them is told by how far it is from the
one before, as a number of variable length in base 36.
-/

namespace HealthWatch.Net.Punycode

/-- A digit of base 36: letters first. -/
def digit (n : Nat) : Char :=
  if n < 26 then Char.ofNat ('a'.toNat + n) else Char.ofNat ('0'.toNat + n - 26)

/-- The value of a digit. -/
def digitValue? (c : Char) : Option Nat :=
  if 'a' ≤ c ∧ c ≤ 'z' then some (c.toNat - 'a'.toNat)
  else if '0' ≤ c ∧ c ≤ '9' then some (c.toNat - '0'.toNat + 26)
  else none

/-- The least value that a digit at a place has if the number goes on. -/
def threshold (place bias : Nat) : Nat :=
  if place ≤ bias then 1 else min 26 (place - bias)

theorem threshold_pos (place bias : Nat) : 1 ≤ threshold place bias := by
  unfold threshold
  split <;> omega

/-- The digits of a distance. -/
def distanceDigits (bias place n : Nat) : List Char :=
  let t := threshold place bias
  if n < t then [digit n]
  else digit (t + (n - t) % (36 - t)) :: distanceDigits bias (place + 36) ((n - t) / (36 - t))
termination_by n
decreasing_by
  have h₁ := threshold_pos place bias
  exact Nat.lt_of_le_of_lt (Nat.div_le_self _ _) (by omega)

/-- Halves a distance to the range of one digit, counting the steps. -/
def settle (delta steps : Nat) : Nat × Nat :=
  if 455 < delta then settle (delta / 35) (steps + 36) else (delta, steps)
termination_by delta
decreasing_by exact Nat.div_lt_self (by omega) (by decide)

/-- The bias after a distance, when `count` characters have been told. -/
def adapt (delta count : Nat) (first : Bool) : Nat :=
  let delta := if first then delta / 700 else delta / 2
  let (delta, steps) := settle (delta + delta / count) 0
  steps + 36 * delta / (delta + 38)

/-- What an encoder knows between two characters. -/
structure Encoder where
  digits : List Char
  delta : Nat
  bias : Nat
  told : Nat

/-- Goes past a character while those of number `target` are told. -/
def Encoder.pass (basics target : Nat) (e : Encoder) (c : Char) : Encoder :=
  if c.toNat < target then { e with delta := e.delta + 1 }
  else if c.toNat = target then
    { digits := e.digits ++ distanceDigits e.bias 36 e.delta
      delta := 0
      bias := adapt e.delta (e.told + 1) (e.told == basics)
      told := e.told + 1 }
  else e

/-- Tells the characters of the numbers in `targets`, which are increasing and
start at `next` or later. -/
def Encoder.tell (label : List Char) (basics : Nat) : List Nat → Nat → Encoder → Encoder
  | [], _, e => e
  | target :: targets, next, e =>
    let e := { e with delta := e.delta + (target - next) * (e.told + 1) }
    let e := label.foldl (Encoder.pass basics target) e
    Encoder.tell label basics targets (target + 1) { e with delta := e.delta + 1 }

/-- The label in ASCII, without the mark that it is one. -/
def encode (label : List Char) : List Char :=
  let basics := label.filter (·.toNat < 0x80)
  let targets := ((label.filter (0x80 ≤ ·.toNat)).map (·.toNat)).mergeSort.eraseReps
  let start : Encoder := ⟨[], 0, 72, basics.length⟩
  let e := Encoder.tell label basics.length targets 0x80 start
  basics ++ (if basics.isEmpty then [] else ['-']) ++ e.digits

/-- A distance at the start of digits, and what follows it.  The weights of its
digits have 32 bits. -/
def distance? (bias : Nat) : List Char → (place weight sum : Nat) → Option (Nat × List Char)
  | [], _, _, _ => none
  | c :: rest, place, weight, sum => do
    let d ← digitValue? c
    let t := threshold place bias
    if d < t then some (sum + d * weight, rest)
    else if weight * (36 - t) < Nat.pow 2 32 then
      distance? bias rest (place + 36) (weight * (36 - t)) (sum + d * weight)
    else none

/-- Puts the characters that the digits tell into a label.  `fuel` bounds their
number. -/
def insertTold : (fuel : Nat) → List Char → (next place bias : Nat) → (first : Bool) →
    List Char → Option (List Char)
  | _, [], _, _, _, _, label => some label
  | 0, _ :: _, _, _, _, _, _ => none
  | fuel + 1, digits, next, place, bias, first, label => do
    let (delta, digits) ← distance? bias digits 36 1 0
    let count := label.length + 1
    let next := next + (place + delta) / count
    let place := (place + delta) % count
    if next.isValidChar then
      insertTold fuel digits next (place + 1) (adapt delta count first) false
        (label.take place ++ Char.ofNat next :: label.drop place)
    else none

/-- The label that a label in ASCII stands for.  A hyphen divides its characters
from the digits only if there is a character before it. -/
def decode? (cs : List Char) : Option (List Char) :=
  let basics := ((cs.reverse.dropWhile (· ≠ '-')).drop 1).reverse
  let digits := if basics.isEmpty then cs else cs.drop (basics.length + 1)
  insertTold (digits.length + 1) digits 0x80 0 72 true basics

end HealthWatch.Net.Punycode
