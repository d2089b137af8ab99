/-!
# JSON values and their text

`Json.Value` is a JSON text without its layout.  A number is kept as it is
spelled, since its spelling decides what may read it.  A string is kept as the
text that it stands for, or as `none` if it holds half of a surrogate pair,
which stands for no text.

`Json.Value.write` gives the compact text of a value.  Only what must be
escaped is: the quote, the backslash and the controls below U+0020.
-/

namespace HealthWatch.Json

/-- A JSON value. -/
inductive Value where
  | null
  | bool (b : Bool)
  /-- A number as it is spelled. -/
  | number (literal : String)
  /-- A string, or `none` for one that stands for no text. -/
  | text (s : Option String)
  | list (items : List Value)
  /-- The fields as they are listed; a name may be listed more than once. -/
  | object (fields : List (Option String × Value))

/-- The value of a text. -/
def Value.ofText (s : String) : Value := .text (some s)

/-- The value of a count. -/
def Value.ofNat (n : Nat) : Value := .number (toString n)

/-- An object whose names are texts. -/
def Value.ofFields (fields : List (String × Value)) : Value :=
  .object (fields.map fun f => (some f.1, f.2))

/-- A character as it stands inside quotes. -/
def escape (c : Char) : List Char :=
  if c = '"' then ['\\', '"']
  else if c = '\\' then ['\\', '\\']
  else if c = '\x08' then ['\\', 'b']
  else if c = '\x0c' then ['\\', 'f']
  else if c = '\n' then ['\\', 'n']
  else if c = '\r' then ['\\', 'r']
  else if c = '\t' then ['\\', 't']
  else if c.toNat < 0x20 then
    ['\\', 'u', '0', '0', Nat.digitChar (c.toNat / 16), Nat.digitChar (c.toNat % 16)]
  else [c]

/-- A text in quotes. -/
def quote (s : String) : String :=
  "\"" ++ String.ofList (s.toList.flatMap escape) ++ "\""

/-- Joins the texts of items by commas. -/
def commaSeparated (items : List String) : String :=
  ",".intercalate items

mutual

/-- The compact text of a value.  A string that stands for no text is written
as if it were empty. -/
def Value.write : Value → String
  | .null => "null"
  | .bool b => if b then "true" else "false"
  | .number literal => literal
  | .text s => quote (s.getD "")
  | .list items => "[" ++ commaSeparated (writeItems items) ++ "]"
  | .object fields => "\x7b" ++ commaSeparated (writeFields fields) ++ "\x7d"

/-- The texts of the items of a list. -/
def writeItems : List Value → List String
  | [] => []
  | item :: rest => item.write :: writeItems rest

/-- The texts of the fields of an object, each a quoted name and a value. -/
def writeFields : List (Option String × Value) → List String
  | [] => []
  | (name, value) :: rest => (quote (name.getD "") ++ ":" ++ value.write) :: writeFields rest

end

end HealthWatch.Json
