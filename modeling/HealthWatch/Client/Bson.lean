import HealthWatch.Decimal.Shortest

/-!
# What a document store answers

The values of a document, and the uptime that a server tells in one: a number
of seconds, whose type depends on the version of the server.
-/

namespace HealthWatch.Client

/-- A number with decimal digits. -/
inductive Decimal128 where
  | notANumber
  | infinite (negative : Bool)
  /-- `coefficient * 10 ^ exponent`, with its sign. -/
  | finite (negative : Bool) (coefficient : Nat) (exponent : Int)

/-- A value in a document. -/
inductive Bson where
  | null
  | bool (b : Bool)
  | string (s : String)
  | double (x : Float)
  | int32 (n : Int32)
  | int64 (n : Int64)
  | decimal128 (d : Decimal128)
  | document (fields : List (String × Bson))
  | array (elements : List Bson)
  /-- A value of a type that is none of the above and no number: a date, an identifier, bytes,
  an expression and so on. -/
  | other (type : UInt8) (content : List UInt8)

/-- The greatest number of seconds that is told apart. -/
def maxSeconds : Nat := Nat.pow 2 64 - 1

/-- The whole part of `mantissa * 2 ^ exponent`. -/
def wholePart (mantissa : Nat) (exponent : Int) : Nat :=
  mantissa * Nat.pow 2 exponent.toNat / Nat.pow 2 (-exponent).toNat

/-- The whole seconds of a double that is not negative, as far as they are told
apart. -/
def secondsOfFloat? (x : Float) : Option Nat :=
  match Binary.ofFloat x with
  | .notANumber => none
  | .infinite negative => if negative then none else some maxSeconds
  | .finite negative mantissa exponent =>
    if negative && mantissa != 0 then none
    else some (min (wholePart mantissa exponent) maxSeconds)

/-- The seconds of a whole number that is not negative. -/
def secondsOfInt? (n : Int) : Option Nat := if 0 ≤ n then some n.toNat else none

/-- The seconds that a value stands for. -/
def Bson.seconds? : Bson → Option Nat
  | .double x => secondsOfFloat? x
  | .int32 n => secondsOfInt? n.toInt
  | .int64 n => secondsOfInt? n.toInt
  | _ => none

/-- The uptime that a server tells in a document, in seconds.  Of fields with the same name the
last one counts. -/
def serverUptime? (fields : List (String × Bson)) : Option Nat :=
  (fields.reverse.lookup "uptime").bind Bson.seconds?

end HealthWatch.Client
