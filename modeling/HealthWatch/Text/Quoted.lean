import HealthWatch.Text.Hidden

/-!
# Quoted texts

`Text.quoted` shows a text in quotes on one line: the quote and the backslash
are escaped, NUL, tab, line feed and carriage return have escapes of their own,
and what cannot be seen stands as its code point in hexadecimal.
-/

namespace HealthWatch.Text

/-- A character inside quotes. -/
def quotedChar (c : Char) : List Char :=
  if c = '"' then ['\\', '"']
  else if c = '\\' then ['\\', '\\']
  else if c = '\x00' then ['\\', '0']
  else if c = '\t' then ['\\', 't']
  else if c = '\n' then ['\\', 'n']
  else if c = '\r' then ['\\', 'r']
  else if isHidden c then
    ['\\', 'u', '\x7b'] ++ Nat.toDigits 16 c.toNat ++ ['\x7d']
  else [c]

/-- A text in quotes. -/
def quoted (s : String) : String :=
  "\"" ++ String.ofList (s.toList.flatMap quotedChar) ++ "\""

/-- A list of texts in quotes. -/
def quotedList (items : List String) : String :=
  "[" ++ ", ".intercalate (items.map quoted) ++ "]"

end HealthWatch.Text
