import HealthWatch.Net.Ip
import HealthWatch.Yaml.Cursor

/-!
# Reading scalars

A scalar may be written in five ways.  In plain and quoted scalars, lines are
folded: a line end between words is a space, and further line ends after it are
kept.  Block scalars keep their lines, or fold those that are not indented
more; what they keep of the line ends behind them is told by a sign.
-/

namespace HealthWatch.Yaml

open HealthWatch.Net

/-- What stands between two words: spaces, or line ends with spaces around them
that do not count. -/
structure Gap where
  spaces : List Char
  /-- The first line end and those after it. -/
  breaks : Option (List Char × List Char)

/-- The gap in which nothing stands. -/
def Gap.empty : Gap := ⟨[], none⟩

/-- The gap after a line end that does not count. -/
def Gap.escaped : Gap := ⟨[], some ([], [])⟩

/-- What a gap is read as. -/
def Gap.text (g : Gap) : List Char :=
  match g.breaks with
  | none => g.spaces
  | some (first, more) =>
    if first = ['\n'] then (if more.isEmpty then [' '] else more) else first ++ more

/-- A gap with a line end after it. -/
def Gap.addBreak (g : Gap) (ch : Char) : Gap :=
  match g.breaks with
  | none => ⟨[], some ([ch], [])⟩
  | some (first, more) => ⟨[], some (first, more ++ [ch])⟩

/-- A gap with a space after it. -/
def Gap.addSpace (g : Gap) (ch : Char) : Gap :=
  match g.breaks with
  | none => ⟨g.spaces ++ [ch], none⟩
  | some _ => g

/-- Reads a gap.  After a line end no tab may stand left of the margin. -/
def readGap (margin : Nat) : List Char → Place → Gap → Option (Gap × Cursor)
  | [], p, g => some (g, ⟨[], p⟩)
  | '\r' :: '\n' :: rest, p, g => readGap margin rest (p.nextLine 2) (g.addBreak '\n')
  | ch :: rest, p, g =>
    if isSpace ch then
      if ch == '\t' && g.breaks.isSome && p.column < margin then none
      else readGap margin rest (p.advance 1) (g.addSpace ch)
    else if isBreak ch then readGap margin rest (p.nextLine 1) (g.addBreak (breakText ch))
    else some (g, ⟨ch :: rest, p⟩)

/-! ## Plain scalars -/

/-- The marks of flow lists and mappings that end a plain scalar in them. -/
def isFlowMark (ch : Char) : Bool := ",[]\x7b\x7d".toList.contains ch

/-- A word of a plain scalar.  A colon ends it before a space, and inside a flow
list or mapping it may not stand before a mark of these. -/
def plainWord (inFlow : Bool) : List Char → Option (List Char)
  | [] => some []
  | ch :: rest =>
    if isSpace ch || isBreak ch then some []
    else if ch == ':' && isSeparated rest then some []
    else if ch == ':' && inFlow && (rest.head?.any fun n => n == '?' || isFlowMark n) then none
    else if inFlow && isFlowMark ch then some []
    else (plainWord inFlow rest).map (ch :: ·)

/-- A scalar that was read, and what follows it. -/
structure Reading where
  text : List Char
  cursor : Cursor
  /-- Whether a line end has been read behind the last word. -/
  broken : Bool

/-- Reads the words of a plain scalar after `text` and a gap.  They may not stand
left of the margin.  Every word takes a character, so `fuel` is their number. -/
def readPlain (inFlow : Bool) (margin : Nat) :
    (fuel : Nat) → (text : List Char) → Gap → Cursor → Option Reading
  | 0, text, gap, c => some ⟨text, c, gap.breaks.isSome⟩
  | fuel + 1, text, gap, c =>
    if c.atDocumentMark || c.rest.head? == some '#' then
      some ⟨text, c, gap.breaks.isSome⟩
    else
      match plainWord inFlow c.rest with
      | none => none
      | some [] => some ⟨text, c, gap.breaks.isSome⟩
      | some word =>
        let text := text ++ gap.text ++ word
        let c := c.advance word.length
        match readGap margin c.rest c.place .empty with
        | none => none
        | some (gap, c') =>
          if c.rest.isEmpty || !isSeparated c.rest then some ⟨text, c, false⟩
          else if !inFlow && c'.column < margin then some ⟨text, c', gap.breaks.isSome⟩
          else readPlain inFlow margin fuel text gap c'

/-! ## Quoted scalars -/

/-- The character of an escape of one letter. -/
def shortEscape? (ch : Char) : Option Char :=
  match ch with
  | '0' => some '\x00'
  | 'a' => some '\x07'
  | 'b' => some '\x08'
  | 't' | '\t' => some '\t'
  | 'n' => some '\n'
  | 'v' => some '\x0b'
  | 'f' => some '\x0c'
  | 'r' => some '\r'
  | 'e' => some '\x1b'
  | ' ' => some ' '
  | '"' => some '"'
  | '/' => some '/'
  | '\\' => some '\\'
  | 'N' => some '\x85'
  | '_' => some '\xa0'
  | 'L' => some '\u2028'
  | 'P' => some '\u2029'
  | _ => none

/-- How many digits follow the letter of an escape by number. -/
def escapeDigits? (ch : Char) : Option Nat :=
  match ch with
  | 'x' => some 2
  | 'u' => some 4
  | 'U' => some 8
  | _ => none

/-- The character of an escape, after its backslash, and how long the escape is. -/
def escape? (cs : List Char) : Option (Char × Nat) :=
  match cs with
  | [] => none
  | letter :: rest =>
    match shortEscape? letter with
    | some ch => some (ch, 1)
    | none => do
      let count ← escapeDigits? letter
      let n ← natOfHex? (rest.take count)
      if rest.length < count then none
      else if h : n.isValidChar then some (Char.ofNatAux n h, 1 + count)
      else none

/-- A word of a quoted scalar. -/
structure QuotedWord where
  text : List Char
  /-- What is known of the gap behind it. -/
  gap : Gap
  cursor : Cursor

/-- Puts a character before a word. -/
def QuotedWord.cons (ch : Char) (w : QuotedWord) : QuotedWord := { w with text := ch :: w.text }

/-- Reads a word between double quotes.  Each step takes a character, so `fuel` is
the number of characters. -/
def doubleWord : (fuel : Nat) → Cursor → Option QuotedWord
  | 0, c => some ⟨[], .empty, c⟩
  | fuel + 1, c =>
    match c.rest with
    | [] => some ⟨[], .empty, c⟩
    | '"' :: _ => some ⟨[], .empty, c⟩
    | '\\' :: rest =>
      if rest.head?.any isBreak then some ⟨[], .escaped, (c.advance 1).skipBreak⟩
      else
        match escape? rest with
        | none => none
        | some (ch, length) => (doubleWord fuel (c.advance (1 + length))).map (.cons ch)
    | ch :: _ =>
      if isSpace ch || isBreak ch then some ⟨[], .empty, c⟩
      else (doubleWord fuel (c.advance 1)).map (.cons ch)

/-- Reads a word between single quotes, in which a quote is written twice. -/
def singleWord : (fuel : Nat) → Cursor → QuotedWord
  | 0, c => ⟨[], .empty, c⟩
  | fuel + 1, c =>
    match c.rest with
    | [] => ⟨[], .empty, c⟩
    | '\'' :: '\'' :: _ => (singleWord fuel (c.advance 2)).cons '\''
    | '\'' :: _ => ⟨[], .empty, c⟩
    | ch :: _ =>
      if isSpace ch || isBreak ch then ⟨[], .empty, c⟩
      else (singleWord fuel (c.advance 1)).cons ch

/-- Reads a quoted scalar after its opening quote, up to its closing one. -/
def readQuoted (quote : Char) : (fuel : Nat) → (text : List Char) → Cursor → Option Reading
  | 0, _, _ => none
  | fuel + 1, text, c =>
    if c.atDocumentMark || c.rest.isEmpty then none
    else
      match if quote == '"' then doubleWord (c.rest.length + 1) c
        else some (singleWord (c.rest.length + 1) c) with
      | none => none
      | some word =>
        let text := text ++ word.text
        if word.cursor.rest.head? == some quote then
          some ⟨text, word.cursor.advance 1, false⟩
        else
          match readGap 0 word.cursor.rest word.cursor.place word.gap with
          | none => none
          | some (gap, c) => readQuoted quote fuel (text ++ gap.text) c

/-! ## Block scalars -/

/-- Which line ends behind a block scalar are kept. -/
inductive Chomping where
  | strip
  | clip
  | keep
deriving DecidableEq

/-- What stands behind the mark of a block scalar. -/
structure BlockHeader where
  chomping : Chomping
  /-- How much the scalar is indented, if that is told. -/
  indent : Option Nat

/-- Reads the sign of a chomping. -/
def chomping? (c : Cursor) : Option (Chomping × Cursor) :=
  match c.rest with
  | '+' :: _ => some (.keep, c.advance 1)
  | '-' :: _ => some (.strip, c.advance 1)
  | _ => none

/-- Reads a digit that tells an indentation.  Zero tells none, and is refused. -/
def indentDigit? (c : Cursor) : Option (Option Nat × Cursor) :=
  match c.rest with
  | ch :: _ =>
    if ch == '0' then none
    else if ch.isDigit then some (some (ch.toNat - '0'.toNat), c.advance 1)
    else some (none, c)
  | [] => some (none, c)

/-- Reads the rest of the line after the mark of a block scalar. -/
def blockHeader? (c : Cursor) : Option (BlockHeader × Cursor) :=
  match chomping? c with
  | some (chomping, c) => do
    let (indent, c) ← indentDigit? c
    some (⟨chomping, indent⟩, ← c.finishLine?)
  | none => do
    let (indent, c) ← indentDigit? c
    match (if indent.isSome then chomping? c else none) with
    | some (chomping, c) => some (⟨chomping, indent⟩, ← c.finishLine?)
    | none => some (⟨.clip, indent⟩, ← c.finishLine?)

/-- The line ends before a line of a block scalar, and the greatest column that
the indentation of these lines reaches. -/
structure EmptyLines where
  breaks : List Char
  widest : Nat
  cursor : Cursor

/-- Reads the empty lines before a line of a block scalar, and the indentation of
that line up to `indent`.  A tab may not stand in the indentation. -/
def readEmptyLines (indent : Option Nat) :
    List Char → Place → (breaks : List Char) → (widest : Nat) → Option EmptyLines
  | [], p, breaks, widest => some ⟨breaks, max widest p.column, ⟨[], p⟩⟩
  | '\r' :: '\n' :: rest, p, breaks, widest =>
    readEmptyLines indent rest (p.nextLine 2) (breaks ++ ['\n']) (max widest p.column)
  | ch :: rest, p, breaks, widest =>
    let inIndent := indent.all (p.column < ·)
    if inIndent && ch == ' ' then readEmptyLines indent rest (p.advance 1) breaks widest
    else if inIndent && ch == '\t' then none
    else if isBreak ch then
      readEmptyLines indent rest (p.nextLine 1) (breaks ++ [breakText ch])
        (max widest p.column)
    else some ⟨breaks, max widest p.column, ⟨ch :: rest, p⟩⟩

/-- What has been read of a block scalar. -/
structure BlockState where
  text : List Char
  /-- The line end of the last line. -/
  lineEnd : List Char
  /-- The line ends of the empty lines after it. -/
  breaks : List Char
  /-- Whether the last line began with a space. -/
  spaced : Bool
  cursor : Cursor

/-- What the line ends before a line are read as.  Folding makes a single one a
space and drops the first of several, unless one of the lines around them begins
with a space. -/
def BlockState.joint (s : BlockState) (folded spaced : Bool) : List Char :=
  if folded && s.lineEnd == ['\n'] && !s.spaced && !spaced then
    if s.breaks.isEmpty then [' '] else s.breaks
  else s.lineEnd ++ s.breaks

/-- Reads the lines of a block scalar that are indented by `indent`. -/
def readLines (folded : Bool) (indent : Nat) : (fuel : Nat) → BlockState → Option BlockState
  | 0, s => some s
  | fuel + 1, s =>
    if s.cursor.column != indent || s.cursor.rest.isEmpty then some s
    else
      let spaced := s.cursor.rest.head?.any isSpace
      let (line, c) := s.cursor.takeWhile fun _ => true
      let (lineEnd, c) := c.lineBreak
      match readEmptyLines (some indent) c.rest c.place [] 0 with
      | none => none
      | some empty =>
        readLines folded indent fuel
          ⟨s.text ++ s.joint folded spaced ++ line, lineEnd, empty.breaks, spaced, empty.cursor⟩

/-- Reads a block scalar after its mark.  `margin` is the column right of the
indentation that the scalar stands in. -/
def readBlock (folded : Bool) (margin : Nat) (c : Cursor) : Option Reading := do
  let (header, c) ← blockHeader? c
  let told := header.indent.map fun n => (margin - 1) + n
  let first ← readEmptyLines told c.rest c.place [] 0
  let indent := told.getD (max first.widest (max margin 1))
  let start : BlockState := ⟨[], [], first.breaks, false, first.cursor⟩
  let s ← readLines folded indent (first.cursor.rest.length + 1) start
  let tail := match header.chomping with
    | .strip => []
    | .clip => s.lineEnd
    | .keep => s.lineEnd ++ s.breaks
  some ⟨s.text ++ tail, s.cursor, false⟩

end HealthWatch.Yaml
