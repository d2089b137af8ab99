import HealthWatch.Decimal.Reading
import HealthWatch.Event
import HealthWatch.Text.Alphanumeric
import HealthWatch.Text.Blank
import HealthWatch.Text.Pattern

/-!
# Directives of a filter

A directive says how much is shown of what it is about.  It is written
`target[span{field=value}]=level`, of which every part may be left out, but not
all; without a level everything is shown.  A level alone is about everything.

The parts are looked for in the text without the blanks around it, but each is
then taken from its place, counted in bytes, in the text as it stands.  So a
blank after a level spoils the level, and one in front spoils every part.
-/

namespace HealthWatch

/-- Why a filter cannot be read. -/
inductive FilterError where
  /-- A directive is not written as one. -/
  | malformed
  /-- There is no such level. -/
  | unknownLevel
  /-- The value of a field is no pattern. -/
  | badPattern
deriving DecidableEq

/-- What is told of a filter that cannot be read. -/
def FilterError.message : FilterError → String
  | .malformed => "invalid filter directive"
  | .unknownLevel =>
    "error parsing level filter: expected one of \"off\", \"error\", \"warn\", \"info\", "
      ++ "\"debug\", \"trace\", or a number 0-5"
  | .badPattern => "invalid field filter: error building NFA"

/-- What is asked of the value of a field: to be of a pattern, or to be a number
or a truth value, which no text is. -/
structure ValueDemand where
  /-- How the demand is written. -/
  text : String
  pattern : Option Text.Pattern

/-- What is asked of the fields of a span or an event. -/
structure FieldDemand where
  name : String
  value : Option ValueDemand

/-- What a filter says about something. -/
structure Directive where
  /-- How the targets begin that the directive is about. -/
  target : String
  /-- The span that the directive is about, if it is about one. -/
  span : Option String
  field : Option FieldDemand
  /-- The level up to which events are shown, if any are. -/
  most : Option Level

/-! ## Reading values -/

namespace ValueDemand

/-- Whether a word is a double that no digits spell. -/
def isSpecialReal (s : String) : Bool :=
  let magnitude := match s.toList with
    | '-' :: cs | '+' :: cs => String.ofList cs
    | _ => s
  ["nan", "inf", "infinity"].contains magnitude.toLower

/-- Whether a word is a number or a truth value. -/
def isScalar (s : String) : Bool :=
  s == "true" || s == "false" || (floatOfText? s).isSome || isSpecialReal s

/-- Reads what is asked of a value. -/
def ofText? (s : String) : Option ValueDemand :=
  if isScalar s then some ⟨s, none⟩
  else (Text.Pattern.ofText? s).map fun p => ⟨s, some p⟩

end ValueDemand

/-- Reads what is asked of a field, `name` or `name=value`.  What a second
equals sign begins is left out. -/
def FieldDemand.ofText (s : String) : Except FilterError FieldDemand :=
  match s.splitOn "=" with
  | name :: value :: _ =>
    match ValueDemand.ofText? value with
    | some value => .ok ⟨name, some value⟩
    | none => .error .badPattern
  | _ => .ok ⟨s, none⟩

/-! ## Reading levels -/

namespace Directive

/-- The level of a rank, or that nothing is shown. -/
def levelOfRank? : Nat → Option (Option Level)
  | 0 => some none
  | 1 => some (some .error)
  | 2 => some (some .warn)
  | 3 => some (some .info)
  | 4 => some (some .debug)
  | 5 => some (some .trace)
  | _ => none

/-- How much is shown, by its name in letters of either case. -/
def levelOfName? (s : String) : Option (Option Level) :=
  match s.toLower with
  | "off" => some none
  | "error" => some (some .error)
  | "warn" => some (some .warn)
  | "info" => some (some .info)
  | "debug" => some (some .debug)
  | "trace" => some (some .trace)
  | _ => none

/-- How much is shown, by its rank or by its name. -/
def level? (s : String) : Option (Option Level) :=
  ((countOfText? (Nat.pow 2 64) s).bind levelOfRank?) <|> levelOfName? s

/-- Reads a level behind its equals sign; if nothing stands there, everything is
shown. -/
def levelOf (s : String) : Except FilterError (Option Level) :=
  if s.isEmpty then .ok (some .trace)
  else
    match level? s with
    | some most => .ok most
    | none => .error .unknownLevel

/-! ## Finding the parts -/

/-- A part of a text: the bytes from one place up to another. -/
structure Stretch where
  first : Nat
  last : Nat

/-- How many bytes characters take. -/
def byteCount (cs : List Char) : Nat := cs.foldr (fun c n => c.utf8Size + n) 0

/-- The stretch of characters that begin at a place. -/
def Stretch.at (place : Nat) (cs : List Char) : Stretch := ⟨place, place + byteCount cs⟩

/-- What stands in a stretch of a text, if it does not begin or end inside a
character. -/
def Stretch.of? (text : String) (part : Stretch) : Option String :=
  String.fromUTF8? (text.toUTF8.extract part.first part.last)

/-- Where the parts of a directive stand. -/
inductive Outline where
  /-- A level or a target alone. -/
  | word
  /-- Parts, of which the level goes from its place to the end. -/
  | parts (target span field : Option Stretch) (level : Option Nat)

namespace Outline

/-- Whether a directive may begin with a character, if not with a bracket. -/
def beginsWord (c : Char) : Bool :=
  c == '-' || c == ':' || c == '_' || Text.isAlphanumeric c

/-- Goes on behind the closing bracket. -/
def afterSpan (target span field : Option Stretch) (place : Nat) :
    List Char → Except FilterError Outline
  | [] => .ok (.parts target span field none)
  | '=' :: _ => .ok (.parts target span field (some (place + 1)))
  | _ => .error .malformed

/-- Goes on behind the opening brace.  A field has a name. -/
def inField (target span : Option Stretch) (place : Nat) (cs : List Char) :
    Except FilterError Outline :=
  match cs.span (·.toNat != 0x7d) with
  | ([], _) => .error .malformed
  | (field, _ :: ']' :: rest) =>
    afterSpan target span (some (.at place field)) (place + byteCount field + 2) rest
  | _ => .error .malformed

/-- Goes on behind the opening bracket. -/
def inSpan (target : Option Stretch) (place : Nat) (cs : List Char) :
    Except FilterError Outline :=
  match cs.span fun c => c != ']' && c.toNat != 0x7b with
  | (name, ']' :: rest) =>
    afterSpan target (some (.at place name)) none (place + byteCount name + 1) rest
  | (name, _ :: rest) =>
    let span := if name.isEmpty then none else some (.at place name)
    inField target span (place + byteCount name + 1) rest
  | (_, []) => .error .malformed

/-- Finds the parts of a directive without blanks around it. -/
def ofChars : List Char → Except FilterError Outline
  | [] => .error .malformed
  | '[' :: cs => inSpan none 1 cs
  | c :: cs =>
    if !beginsWord c then .error .malformed
    else
      match (c :: cs).span fun c => c != '=' && c != '[' with
      | (_, []) => .ok .word
      | (target, '=' :: _) =>
        .ok (.parts (some (.at 0 target)) none none (some (byteCount target + 1)))
      | (target, _ :: rest) => inSpan (some (.at 0 target)) (byteCount target + 1) rest

end Outline

/-! ## Reading directives -/

/-- Takes off the blanks around a text. -/
def trimmed (cs : List Char) : List Char :=
  ((cs.dropWhile Text.isWhiteSpace).reverse.dropWhile Text.isWhiteSpace).reverse

/-- What stands at a place, if there is one. -/
def part (text : String) : Option Stretch → Except FilterError (Option String)
  | none => .ok none
  | some place =>
    match place.of? text with
    | some s => .ok (some s)
    | none => .error .malformed

/-- Reads a directive. -/
def ofText (s : String) : Except FilterError Directive := do
  match ← Outline.ofChars (trimmed s.toList) with
  | .word =>
    match level? s with
    | some most => return ⟨"", none, none, most⟩
    | none => return ⟨s, none, none, some .trace⟩
  | .parts target span field level =>
    let target ← part s target
    let span ← part s span
    let field ← (← part s field).mapM FieldDemand.ofText
    let most ← match ← part s (level.map (⟨·, s.utf8ByteSize⟩)) with
      | some level => levelOf level
      | none => .ok (some .trace)
    return ⟨target.getD "", span, field, most⟩

end Directive

end HealthWatch
