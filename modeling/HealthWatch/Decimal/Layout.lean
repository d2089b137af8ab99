import HealthWatch.Decimal.Shortest

/-!
# Layouts of a number's text

The digits of a double's text are fixed by `Decimal.shortest`; what stands
around them is a choice of the format that writes it.  A `NumberLayout` is that
choice, and `NumberLayout.write` applies it.
-/

namespace HealthWatch

/-- How a format writes a double. -/
structure NumberLayout where
  /-- Which of two equally short and equally near texts is written. -/
  tie : Decimal.Tie
  /-- Whether a number is written without an exponent, by the power of ten of
  its leading digit. -/
  positional : Int → Bool
  /-- What ends a whole number that is written without an exponent. -/
  wholeMark : String
  /-- What stands between the exponent's mark and a positive exponent. -/
  plusSign : String
  notANumber : String
  infinity : String
  negativeInfinity : String

namespace NumberLayout

/-- Digits with a point `places` digits after the first one, zeros filling the
gaps. -/
def positionalText (wholeMark : String) (digits : String) (exponent : Int) : String :=
  if 0 ≤ exponent then
    digits ++ String.ofList (List.replicate exponent.toNat '0') ++ wholeMark
  else
    let places := (-exponent).toNat
    let length := digits.length
    if places < length then
      (digits.take (length - places)).toString ++ "." ++ (digits.drop (length - places)).toString
    else
      "0." ++ String.ofList (List.replicate (places - length) '0') ++ digits

/-- One digit, the others behind a point, and the power of ten. -/
def scientificText (plusSign : String) (digits : String) (leading : Int) : String :=
  let rest := (digits.drop 1).toString
  let point := if rest.isEmpty then "" else "."
  let sign := if leading < 0 then "-" else plusSign
  (digits.take 1).toString ++ point ++ rest ++ "e" ++ sign ++ toString leading.natAbs

/-- The text of a finite number that is not negative. -/
def writeMagnitude (l : NumberLayout) (mantissa : Nat) (exponent : Int) : String :=
  let d := Decimal.shortest l.tie mantissa exponent
  let digits := toString d.digits
  let leading := d.exponent + digits.length - 1
  if d.digits = 0 then "0" ++ l.wholeMark
  else if l.positional leading then positionalText l.wholeMark digits d.exponent
  else scientificText l.plusSign digits leading

/-- The text of a double. -/
def write (l : NumberLayout) (x : Float) : String :=
  match Binary.ofFloat x with
  | .notANumber => l.notANumber
  | .infinite negative => if negative then l.negativeInfinity else l.infinity
  | .finite negative mantissa exponent =>
    (if negative then "-" else "") ++ l.writeMagnitude mantissa exponent

end NumberLayout

end HealthWatch
