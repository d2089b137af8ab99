/-!
# Reading a decimal number

`floatOfText?` reads a spelling such as `-12.5e3` as the double nearest to
it.  `natOfDigits?` reads a spelling that is nothing but digits.
-/

namespace HealthWatch

/-- The number that decimal digits spell. -/
def digitsValue (ds : List Char) : Nat :=
  ds.foldl (fun n c => 10 * n + (c.toNat - '0'.toNat)) 0

/-- The count that a text of one or more digits spells. -/
def natOfDigits? (s : String) : Option Nat :=
  if !s.isEmpty && s.toList.all Char.isDigit then some (digitsValue s.toList) else none

/-- The count below a bound that a text spells; a plus sign may stand before its
digits. -/
def countOfText? (bound : Nat) (s : String) : Option Nat :=
  let digits := match s.toList with
    | '+' :: ds => String.ofList ds
    | _ => s
  (natOfDigits? digits).filter (· < bound)

/-- The digits of a spelling without its sign: whole part, decimals, exponent. -/
structure NumberParts where
  whole : List Char
  fraction : List Char
  exponent : Int

/-- The exponent after its mark; a sign may stand before its digits. -/
def exponentOf? (cs : List Char) : Option Int :=
  match cs with
  | [] => some 0
  | mark :: rest =>
    if mark == 'e' || mark == 'E' then
      let (negative, ds) := match rest with
        | '-' :: ds => (true, ds)
        | '+' :: ds => (false, ds)
        | ds => (false, ds)
      if ds.isEmpty || !ds.all Char.isDigit then none
      else some (if negative then -(digitsValue ds : Int) else digitsValue ds)
    else none

/-- Splits a spelling without its sign.  One of the two digit runs may be
empty, but not both. -/
def NumberParts.of? (cs : List Char) : Option NumberParts := do
  let whole := cs.takeWhile Char.isDigit
  let (fraction, rest) := match cs.dropWhile Char.isDigit with
    | '.' :: rest => (rest.takeWhile Char.isDigit, rest.dropWhile Char.isDigit)
    | rest => ([], rest)
  if whole.isEmpty && fraction.isEmpty then none
  else some ⟨whole, fraction, ← exponentOf? rest⟩

/-- The double nearest to `digits * 10 ^ exponent`.  Exponents far outside the
range of doubles are not computed with. -/
def nearestFloat (digits : Nat) (exponent : Int) : Float :=
  let size : Int := (Nat.toDigits 10 digits).length
  if digits = 0 || decide (size + exponent < -400) then 0.0
  else if 400 < size + exponent then 1.0 / 0.0
  else Float.ofScientific digits (decide (exponent < 0)) exponent.natAbs

/-- The double that a decimal spelling stands for. -/
def floatOfText? (s : String) : Option Float := do
  let (negative, cs) := match s.toList with
    | '-' :: cs => (true, cs)
    | '+' :: cs => (false, cs)
    | cs => (false, cs)
  let parts ← NumberParts.of? cs
  let magnitude := nearestFloat (digitsValue (parts.whole ++ parts.fraction))
    (parts.exponent - parts.fraction.length)
  some (if negative then -magnitude else magnitude)

end HealthWatch
