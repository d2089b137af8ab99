/-!
# Places in a text

A `Cursor` is what is left of a text and how far one has come: how many
characters, how many lines, and how many characters in the current line.  A
line ends in a line feed, a carriage return or both, or in one of the line ends
of Unicode; all but the last two of these are read as a line feed.
-/

namespace HealthWatch.Yaml

/-- How far one has come. -/
structure Place where
  index : Nat
  line : Nat
  column : Nat
deriving DecidableEq

/-- The place after `n` more characters of the same line. -/
def Place.advance (p : Place) (n : Nat) : Place :=
  { p with index := p.index + n, column := p.column + n }

/-- The place after a line end of `n` characters. -/
def Place.nextLine (p : Place) (n : Nat) : Place := ⟨p.index + n, p.line + 1, 0⟩

/-- What is left of a text, from a place on. -/
structure Cursor where
  rest : List Char
  place : Place

/-- The cursor at the start of a text. -/
def Cursor.start (cs : List Char) : Cursor := ⟨cs, ⟨0, 0, 0⟩⟩

/-- Whether a character ends a line. -/
def isBreak (c : Char) : Bool :=
  c == '\n' || c == '\r' || c == '\x85' || c == '\u2028' || c == '\u2029'

/-- Whether a character is a space or a tab. -/
def isSpace (c : Char) : Bool := c == ' ' || c == '\t'

/-- What a line end is read as. -/
def breakText (c : Char) : Char := if c == '\u2028' || c == '\u2029' then c else '\n'

/-- Whether the first of these characters separates words, or there is none. -/
def isSeparated : List Char → Bool
  | [] => true
  | c :: _ => isSpace c || isBreak c

/-- Whether these characters begin with a line end, or there is none. -/
def isLineEnd : List Char → Bool
  | [] => true
  | c :: _ => isBreak c

namespace Cursor

/-- Goes past `n` characters of the same line. -/
def advance (c : Cursor) (n : Nat) : Cursor := ⟨c.rest.drop n, c.place.advance n⟩

/-- The column of a cursor. -/
def column (c : Cursor) : Nat := c.place.column

/-- Takes the characters of the same line of which `p` holds. -/
def takeWhile (c : Cursor) (p : Char → Bool) : List Char × Cursor :=
  let taken := c.rest.takeWhile fun ch => p ch && !isBreak ch
  (taken, c.advance taken.length)

/-- Goes past the characters of the same line of which `p` holds. -/
def skipWhile (c : Cursor) (p : Char → Bool) : Cursor := (c.takeWhile p).2

/-- Takes a line end, if there is one, as it is read. -/
def lineBreak (c : Cursor) : List Char × Cursor :=
  match c.rest with
  | '\r' :: '\n' :: rest => (['\n'], ⟨rest, c.place.nextLine 2⟩)
  | ch :: rest => if isBreak ch then ([breakText ch], ⟨rest, c.place.nextLine 1⟩) else ([], c)
  | [] => ([], c)

/-- Goes past a line end, if there is one. -/
def skipBreak (c : Cursor) : Cursor := c.lineBreak.2

/-- Goes past spaces, a comment and the end of the line; nothing else may stand
before it. -/
def finishLine? (c : Cursor) : Option Cursor :=
  let c := c.skipWhile isSpace
  let c := if c.rest.head? == some '#' then c.skipWhile (fun _ => true) else c
  if isLineEnd c.rest then some c.skipBreak else none

/-- Whether three times the same character stand alone at the start of a line. -/
def atMark (c : Cursor) (mark : Char) : Bool :=
  match c.rest with
  | x :: y :: z :: rest =>
    c.column == 0 && x == mark && y == mark && z == mark && isSeparated rest
  | _ => false

/-- Whether the mark of the start or of the end of a document stands here. -/
def atDocumentMark (c : Cursor) : Bool := c.atMark '-' || c.atMark '.'

end Cursor

/-- The characters that a text may be made of. -/
def isAllowed (c : Char) : Bool :=
  let n := c.toNat
  n == 0x09 || n == 0x0a || n == 0x0d || (0x20 ≤ n && n ≤ 0x7e) || n == 0x85 ||
    (0xa0 ≤ n && n ≤ 0xd7ff) || (0xe000 ≤ n && n ≤ 0xfffd) || 0x10000 ≤ n

end HealthWatch.Yaml
