import HealthWatch.Decimal.Reading
import HealthWatch.Document.Node
import HealthWatch.Json.Reader

/-!
# JSON documents

A JSON value as a document.  A count is a number without sign, decimals and
exponent that fits into 64 bits; a text, a flag and null are what they are.
A number beyond all doubles, and a string that stands for no text, cannot be
read.
-/

namespace HealthWatch.Json

open HealthWatch.Document

/-- The bound of the counts of 64 bits. -/
def wordBound : Nat := Nat.pow 2 64

/-- What a number is by its spelling.  Zero with a sign is no whole number. -/
def numberValue? (literal : String) : Option Document.Value :=
  let whole? : Option Document.Value :=
    match literal.toList with
    | '-' :: ds =>
      match natOfDigits? (String.ofList ds) with
      | some n => if 0 < n && n ≤ wordBound / 2 then some (.signed (-(n : Int))) else none
      | none => none
    | _ => ((natOfDigits? literal).filter (· < wordBound)).map .natural
  match whole? with
  | some v => some v
  | none => ((floatOfText? literal).filter (·.isFinite)).map fun _ => .fraction

/-- A scalar that is read as its value. -/
def scalarOfValue (v : Document.Value) : Scalar where
  natural? := match v with
    | .natural n => some n
    | _ => none
  flag? := match v with
    | .flag b => some b
    | _ => none
  text? := match v with
    | .text s => some s
    | _ => none
  choice? := match v with
    | .text s => some s
    | _ => none
  blank := false
  value? := some v

mutual

/-- A value as a part of a document. -/
def Value.toNode : Value → Node
  | .null => .scalar (scalarOfValue .null)
  | .bool b => .scalar (scalarOfValue (.flag b))
  | .number literal =>
    match numberValue? literal with
    | some v => .scalar (scalarOfValue v)
    | none => .unreadable
  | .text (some s) => .scalar (scalarOfValue (.text s))
  | .text none => .unreadable
  | .list items => .list .positional (itemNodes items)
  | .object fields => .mapping .positional (fieldNodes fields)

/-- The items of a list as parts of a document. -/
def itemNodes : List Value → List Node
  | [] => []
  | item :: rest => item.toNode :: itemNodes rest

/-- The fields of an object as entries of a mapping. -/
def fieldNodes : List (Option String × Value) → List (Node × Node)
  | [] => []
  | (some name, value) :: rest =>
    (.scalar (scalarOfValue (.text name)), value.toNode) :: fieldNodes rest
  | (none, value) :: rest => (.unreadable, value.toNode) :: fieldNodes rest

end

/-- Reads a text as a JSON document. -/
def readDocument (s : String) : Option Document :=
  (read s).map fun value => { root := value.toNode }

end HealthWatch.Json
