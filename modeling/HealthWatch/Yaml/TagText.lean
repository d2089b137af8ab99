import HealthWatch.Net.Ip
import HealthWatch.Yaml.Cursor
import HealthWatch.Yaml.Token

/-!
# Reading tags, anchors and directives

A tag is `!<uri>`, `!suffix`, `!handle!suffix` or `!` alone.  In it bytes may be
escaped; they must look like the bytes of a character, but need not be one.  A
directive stands on a line of its own before a document: `%YAML 1.1` tells the
version, and `%TAG` tells what a handle stands for.
-/

namespace HealthWatch.Yaml

open HealthWatch.Net

/-- The characters of the names of anchors, handles and directives. -/
def isWordChar (c : Char) : Bool := c.isAlphanum || c == '_' || c == '-'

/-- The characters of a URI. -/
def isUriChar (inBrackets : Bool) (c : Char) : Bool :=
  isWordChar c || ";/?:@&=+$.%!~*'()".toList.contains c ||
    (inBrackets && ",[]".toList.contains c)

/-- How many bytes a character takes whose first byte is this one. -/
def utf8Width? (b : Nat) : Option Nat :=
  if b < 0x80 then some 1
  else if b / 0x20 = 0x6 then some 2
  else if b / 0x10 = 0xe then some 3
  else if b / 0x8 = 0x1e then some 4
  else none

/-- Reads an escaped byte. -/
def escapedByte? (c : Cursor) : Option (Nat × Cursor) :=
  match c.rest with
  | '%' :: a :: b :: _ => (natOfHex? [a, b]).map (·, c.advance 3)
  | _ => none

/-- Reads escaped bytes that may follow the first one of a character. -/
def trailingBytes : (count : Nat) → Cursor → Option (List UInt8 × Cursor)
  | 0, c => some ([], c)
  | count + 1, c => do
    let (n, c) ← escapedByte? c
    guard (n / 0x40 = 0x2)
    let (bytes, c) ← trailingBytes count c
    some (UInt8.ofNat n :: bytes, c)

/-- Reads a character that is written as escaped bytes. -/
def escapedChar? (c : Cursor) : Option (List UInt8 × Cursor) := do
  let (n, c) ← escapedByte? c
  let (bytes, c) ← trailingBytes ((← utf8Width? n) - 1) c
  some (UInt8.ofNat n :: bytes, c)

/-- Reads the bytes of a URI.  Each step takes a character, so `fuel` is their
number. -/
def readUri (inBrackets : Bool) : (fuel : Nat) → Cursor → Option (List UInt8 × Cursor)
  | 0, c => some ([], c)
  | fuel + 1, c =>
    match c.rest with
    | '%' :: _ => do
      let (first, c) ← escapedChar? c
      let (more, c) ← readUri inBrackets fuel c
      some (first ++ more, c)
    | ch :: _ =>
      if isUriChar inBrackets ch then do
        let (more, c) ← readUri inBrackets fuel (c.advance 1)
        some (ch.toUInt8 :: more, c)
      else some ([], c)
    | [] => some ([], c)

/-- Reads one or more bytes of a URI. -/
def readUri1 (inBrackets : Bool) (c : Cursor) : Option (List UInt8 × Cursor) := do
  let (bytes, c) ← readUri inBrackets c.rest.length c
  if bytes.isEmpty then none else some (bytes, c)

/-- Reads a handle, or what begins like one: `!`, a word, and perhaps another
`!`. -/
def readHandle (c : Cursor) : Option (List Char × Cursor) :=
  match c.rest with
  | '!' :: _ =>
    let (word, c) := (c.advance 1).takeWhile isWordChar
    match c.rest with
    | '!' :: _ => some ('!' :: word ++ ['!'], c.advance 1)
    | _ => some ('!' :: word, c)
  | _ => none

/-- Whether a handle is closed by a second `!`. -/
def isClosedHandle (cs : List Char) : Bool := 1 < cs.length && cs.getLast? == some '!'

/-- Reads a tag. -/
def readTag (inFlow : Bool) (c : Cursor) : Option (Token × Cursor) := do
  let (name, c) ← match c.rest with
    | '!' :: '<' :: _ => do
      let (uri, c) ← readUri1 true (c.advance 2)
      match c.rest with
      | '>' :: _ => some (TagName.mk "" uri, c.advance 1)
      | _ => none
    | _ => do
      let (handle, c) ← readHandle c
      if isClosedHandle handle then
        let (suffix, c) ← readUri1 false c
        some (TagName.mk (String.ofList handle) suffix, c)
      else
        let (more, c) ← readUri false c.rest.length c
        some (TagName.mk "!" ((handle.drop 1).map Char.toUInt8 ++ more), c)
  if isSeparated c.rest || (inFlow && c.rest.head? == some ',') then some (.tag name, c)
  else none

/-- Reads the name of an anchor after its mark. -/
def readAnchorName (c : Cursor) : Option (String × Cursor) :=
  let (name, c) := c.takeWhile isWordChar
  let ended := isSeparated c.rest || (c.rest.head?.any fun ch => "?:,]\x7d%@\x60".toList.contains ch)
  if name.isEmpty || !ended then none else some (String.ofList name, c)

/-- Reads a number of at most nine digits. -/
def readVersionNumber (c : Cursor) : Option (Nat × Cursor) := do
  let (ds, c) := c.takeWhile Char.isDigit
  if 9 < ds.length then none
  else some (← natOfDigits? (String.ofList ds), c)

/-- Reads a directive after its mark, with the rest of its line. -/
def readDirective (c : Cursor) : Option (Token × Cursor) := do
  let (name, c) := c.takeWhile isWordChar
  guard (!name.isEmpty && isSeparated c.rest)
  let (token, c) ←
    if name = "YAML".toList then do
      let (major, c) ← readVersionNumber (c.skipWhile isSpace)
      guard (c.rest.head? == some '.')
      let (minor, c) ← readVersionNumber (c.advance 1)
      some (Token.version major minor, c)
    else if name = "TAG".toList then do
      let (handle, c) ← readHandle (c.skipWhile isSpace)
      guard (handle == ['!'] || isClosedHandle handle)
      guard (c.rest.head?.any isSpace)
      let (start, c) ← readUri1 true (c.skipWhile isSpace)
      guard (isSeparated c.rest)
      some (Token.handle (String.ofList handle) start, c)
    else none
  some (token, ← c.finishLine?)

end HealthWatch.Yaml
