import HealthWatch.Decimal.Reading
import HealthWatch.Document.Node
import HealthWatch.Net.Ip
import HealthWatch.Yaml.Tag
import HealthWatch.Yaml.Token

/-!
# What scalars stand for

A plain scalar is null, a flag, a number or a text by how it is spelled; a
scalar of any other style is a text.  Whole numbers may be written in
hexadecimal, octal and binary too, and digits that begin with a needless zero
are a text.  A tag of the core types says what the scalar must be.
-/

namespace HealthWatch.Yaml

open HealthWatch.Document HealthWatch.Net

/-- Whether a spelling means that there is nothing. -/
def isNull (s : String) : Bool := ["null", "Null", "NULL", "~"].contains s

/-- The flag of a spelling. -/
def flagOf? (s : String) : Option Bool :=
  if ["true", "True", "TRUE"].contains s then some true
  else if ["false", "False", "FALSE"].contains s then some false
  else none

/-- Digits of one base. -/
def digitsIn? (base : Nat) (cs : List Char) : Option Nat :=
  if cs.isEmpty then none
  else cs.foldlM (fun n c => ((hexDigit? c).filter (· < base)).map (base * n + ·)) 0

/-- Whether digits begin with a needless zero. -/
def hasNeedlessZero (cs : List Char) : Bool :=
  match cs with
  | '0' :: d :: ds => (d :: ds).all Char.isDigit
  | _ => false

/-- The number that a spelling without a sign stands for. -/
def magnitude? (cs : List Char) : Option Nat :=
  let decimal? := if hasNeedlessZero cs then none else digitsIn? 10 cs
  match cs with
  | '0' :: 'x' :: ds => digitsIn? 16 ds
  | '0' :: 'o' :: ds => digitsIn? 8 ds
  | '0' :: 'b' :: ds => digitsIn? 2 ds
  | _ => decimal?

/-- The whole number of a spelling without a minus sign. -/
def naturalOf? (s : String) : Option Nat :=
  match s.toList with
  | '+' :: cs => magnitude? cs
  | cs => magnitude? cs

/-- The whole number of a spelling with a minus sign. -/
def negatedOf? (s : String) : Option Nat :=
  match s.toList with
  | '-' :: cs => magnitude? cs
  | _ => none

/-- A spelling without its sign, if it has one. -/
def unsigned (cs : List Char) : List Char :=
  match cs with
  | '+' :: rest | '-' :: rest => rest
  | _ => cs

/-- Whether a spelling is a number that is not whole: decimals, an exponent, an
infinity or no number at all. -/
def isFraction (s : String) : Bool :=
  let special := [".inf", ".Inf", ".INF"]
  special.contains s || special.contains (String.ofList (unsigned s.toList)) ||
    [".nan", ".NaN", ".NAN"].contains s ||
    ((floatOfText? s).any (·.isFinite) && !hasNeedlessZero (unsigned s.toList))

/-- What a whole number is by its size: one of 64 bits can be read, one of 128
bits is too large to be read, and any other is no whole number. -/
def sized? (small large n : Nat) (v : Value) : Option (Option Value) :=
  if n < small then some (some v) else if n < large then some none else none

/-- What a spelling of a whole number is by itself. -/
def wholeValue? (s : String) : Option (Option Value) :=
  match naturalOf? s, negatedOf? s with
  | some n, _ => sized? (Nat.pow 2 64) (Nat.pow 2 128) n (.natural n)
  | none, some n => sized? (Nat.pow 2 63 + 1) (Nat.pow 2 127 + 1) n (.signed (-(n : Int)))
  | none, none => none

/-- What a plain scalar without a tag is. -/
def plainValue? (s : String) : Option Value :=
  if s.isEmpty || isNull s then some .null
  else
    match flagOf? s with
    | some b => some (.flag b)
    | none =>
      match wholeValue? s with
      | some v => v
      | none => some (if isFraction s then .fraction else .text s)

/-- What a scalar is by itself. -/
def scalarValue? (tag : Option Tag) (style : ScalarStyle) (s : String) : Option Value :=
  match tag with
  | none => if style = .plain then plainValue? s else some (.text s)
  | some (.own _) => none
  | some (.core .flag) => (flagOf? s).map .flag
  | some (.core .whole) => (wholeValue? s).bind id
  | some (.core .number) =>
    if isFraction s || (floatOfText? s).any (·.isFinite) then some .fraction else none
  | some (.core .null) => if isNull s then some .null else none
  | some .other => some (.text s)

/-- Whether a reader of flags or counts looks at a scalar at all: a plain one, or
one whose lines are kept and whose tag says that it is one. -/
def isSpelled (type : CoreType) (tag : Option Tag) (style : ScalarStyle) : Bool :=
  style = .plain || (style = .literal && tag = some (.core type))

/-- The name that a scalar chooses: its text, or its own tag if it is null. -/
def choiceOf? (tag : Option Tag) (style : ScalarStyle) (s : String) : Option String :=
  match tag with
  | some (.own name) =>
    if style = .plain && (s.isEmpty || isNull s) then some name else none
  | _ => some s

/-- A scalar, by what the readers of it get. -/
def scalarOf (tag : Option Tag) (style : ScalarStyle) (s : String) : Scalar where
  natural? :=
    if isSpelled .whole tag style then (naturalOf? s).filter (· < Nat.pow 2 64) else none
  flag? := if isSpelled .flag tag style then flagOf? s else none
  text? := some s
  choice? := choiceOf? tag style s
  blank := style = .plain && s.isEmpty
  value? := scalarValue? tag style s

/-- The scalar that stands where nothing is written. -/
def nothing : Scalar := scalarOf none .plain ""

end HealthWatch.Yaml
