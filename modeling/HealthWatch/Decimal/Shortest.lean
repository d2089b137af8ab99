/-!
# The shortest decimal that reads back

A finite double stands for `mantissa * 2 ^ exponent`, and a decimal reads back
as it if the decimal lies in the interval of numbers that round to it.  That
interval reaches half way to each neighbour, and holds its two ends if the
mantissa is even.  `Decimal.shortest` takes the coarsest grid of decimals that
has a point in the interval, and on that grid the point nearest to the double.
All of it is exact arithmetic on natural numbers.
-/

namespace HealthWatch

/-- What the bits of a double stand for. -/
inductive Binary where
  | notANumber
  | infinite (negative : Bool)
  /-- `mantissa * 2 ^ exponent`, with its sign. -/
  | finite (negative : Bool) (mantissa : Nat) (exponent : Int)
deriving DecidableEq

/-- Splits the 64 bits of a double into a sign, eleven bits of exponent and 52
bits of fraction. -/
def Binary.ofBits (bits : Nat) : Binary :=
  let negative := decide (Nat.pow 2 63 ≤ bits)
  let biased : Nat := bits / Nat.pow 2 52 % Nat.pow 2 11
  let fraction : Nat := bits % Nat.pow 2 52
  if biased = 2047 then
    if fraction = 0 then .infinite negative else .notANumber
  else if biased = 0 then .finite negative fraction (-1074)
  else .finite negative (Nat.pow 2 52 + fraction) (biased - 1075)

/-- What a double stands for. -/
def Binary.ofFloat (x : Float) : Binary := .ofBits x.toBits.toNat

/-- The number `digits * 10 ^ exponent`. -/
structure Decimal where
  digits : Nat
  exponent : Int
deriving DecidableEq

namespace Decimal

/-- Which of two equally near grid points is taken. -/
inductive Tie where
  | toEven
  | up
deriving DecidableEq

/-- A number `value / denominator` and the numbers `low / denominator` to
`high / denominator` that round to it. -/
structure Interval where
  value : Nat
  low : Nat
  high : Nat
  denominator : Nat
  /-- Whether the two ends round to the number as well. -/
  closed : Bool

/-- The interval of `mantissa * 2 ^ exponent`.  Below a power of two the
neighbours are twice as close, except for the least such power. -/
def Interval.of (mantissa : Nat) (exponent : Int) : Interval :=
  let quarter := exponent - 2
  let scale := Nat.pow 2 quarter.toNat
  let below := if mantissa = Nat.pow 2 52 ∧ -1074 < exponent then 1 else 2
  { value := 4 * mantissa * scale
    low := (4 * mantissa - below) * scale
    high := (4 * mantissa + 2) * scale
    denominator := Nat.pow 2 (-quarter).toNat
    closed := mantissa % 2 == 0 }

/-- Whether `digits * 10 ^ exponent` rounds to the number. -/
def Interval.holds (i : Interval) (digits : Nat) (exponent : Int) : Bool :=
  let point := digits * Nat.pow 10 exponent.toNat * i.denominator
  let unit := Nat.pow 10 (-exponent).toNat
  if i.closed then
    decide (i.low * unit ≤ point) && decide (point ≤ i.high * unit)
  else
    decide (i.low * unit < point) && decide (point < i.high * unit)

/-- The point of the grid of step `10 ^ exponent` that rounds to the number,
the nearer if both neighbours do. -/
def Interval.onGrid (i : Interval) (tie : Tie) (exponent : Int) : Option Nat :=
  let step := Nat.pow 10 exponent.toNat * i.denominator
  let scaled := i.value * Nat.pow 10 (-exponent).toNat
  let floor := scaled / step
  let rest := 2 * (scaled % step)
  let nearer :=
    if rest < step then floor
    else if step < rest then floor + 1
    else match tie with
      | .up => floor + 1
      | .toEven => if floor % 2 = 0 then floor else floor + 1
  let farther := if nearer = floor then floor + 1 else floor
  if i.holds nearer exponent then some nearer
  else if i.holds farther exponent then some farther
  else none

/-- How many decimal digits a number has. -/
def digitCount (n : Nat) : Nat := (Nat.toDigits 10 n).length

/-- The power of ten of the leading digit. -/
def Interval.leading (i : Interval) : Int :=
  if i.denominator ≤ i.value then (digitCount (i.value / i.denominator) : Int) - 1
  else -(digitCount ((i.denominator - 1) / i.value) : Int)

/-- Moves the zeros that end `digits` into the exponent. -/
def normalize (digits : Nat) (exponent : Int) : Decimal :=
  if h : digits ≠ 0 ∧ digits % 10 = 0 then normalize (digits / 10) (exponent + 1)
  else ⟨digits, exponent⟩
termination_by digits
decreasing_by omega

/-- The fewest digits that read back as `mantissa * 2 ^ exponent`, and of those
the nearest.  Seventeen digits always do. -/
def shortest (tie : Tie) (mantissa : Nat) (exponent : Int) : Decimal :=
  if mantissa = 0 then ⟨0, 0⟩
  else
    let i := Interval.of mantissa exponent
    let leading := i.leading
    let found := (List.range 17).findSome? fun (n : Nat) =>
      (i.onGrid tie (leading - n)).map fun digits => normalize digits (leading - n)
    found.getD ⟨mantissa, exponent⟩

end Decimal

end HealthWatch
