import HealthWatch.Json.Value

/-!
# Reading JSON

`Json.read` takes a text that is one JSON value and blanks, and nothing else:
no comments, no trailing commas, no controls inside strings.  Numbers keep
their spelling, and a string with an unpaired half of a surrogate pair is read
as a string that stands for no text.
-/

namespace HealthWatch.Json

/-- The blanks between the parts of a JSON text. -/
def isBlank (c : Char) : Bool := c == ' ' || c == '\t' || c == '\n' || c == '\r'

/-- What follows the blanks. -/
def skipBlanks (cs : List Char) : List Char := cs.dropWhile isBlank

/-- The value of a hexadecimal digit. -/
def hexValue? (c : Char) : Option Nat :=
  if '0' ≤ c ∧ c ≤ '9' then some (c.toNat - '0'.toNat)
  else if 'a' ≤ c ∧ c ≤ 'f' then some (c.toNat - 'a'.toNat + 10)
  else if 'A' ≤ c ∧ c ≤ 'F' then some (c.toNat - 'A'.toNat + 10)
  else none

/-- The value of four hexadecimal digits. -/
def hexUnit? (a b c d : Char) : Option Nat := do
  let a ← hexValue? a
  let b ← hexValue? b
  let c ← hexValue? c
  let d ← hexValue? d
  some (((a * 16 + b) * 16 + c) * 16 + d)

/-- The character of an escape of one letter. -/
def shortEscape? (c : Char) : Option Char :=
  match c with
  | '"' => some '"'
  | '\\' => some '\\'
  | '/' => some '/'
  | 'b' => some '\x08'
  | 'f' => some '\x0c'
  | 'n' => some '\n'
  | 'r' => some '\r'
  | 't' => some '\t'
  | _ => none

/-- What a string is made of: characters, and units given by their number. -/
inductive Piece where
  | char (c : Char)
  | unit (n : Nat)

/-- The pieces of a string up to its closing quote, and what follows it. -/
def pieces : List Char → Option (List Piece × List Char)
  | [] => none
  | '"' :: rest => some ([], rest)
  | '\\' :: 'u' :: a :: b :: c :: d :: rest =>
    match hexUnit? a b c d with
    | some n => (pieces rest).map fun r => (.unit n :: r.1, r.2)
    | none => none
  | '\\' :: e :: rest =>
    match shortEscape? e with
    | some c => (pieces rest).map fun r => (.char c :: r.1, r.2)
    | none => none
  | c :: rest =>
    if c.toNat < 0x20 || c == '\\' then none
    else (pieces rest).map fun r => (.char c :: r.1, r.2)

/-- Whether a unit is the first half of a pair. -/
def isLeading (n : Nat) : Bool := decide (0xD800 ≤ n) && decide (n < 0xDC00)

/-- Whether a unit is the second half of a pair. -/
def isTrailing (n : Nat) : Bool := decide (0xDC00 ≤ n) && decide (n < 0xE000)

/-- The text of pieces, if every half of a pair stands beside its other half. -/
def join : List Piece → Option (List Char)
  | [] => some []
  | .char c :: rest => (join rest).map (c :: ·)
  | .unit a :: .unit b :: rest =>
    if isLeading a then
      if isTrailing b then
        (join rest).map (Char.ofNat (0x10000 + (a - 0xD800) * 0x400 + (b - 0xDC00)) :: ·)
      else none
    else if isTrailing a then none
    else (join (.unit b :: rest)).map (Char.ofNat a :: ·)
  | .unit a :: rest =>
    if isLeading a || isTrailing a then none
    else (join rest).map (Char.ofNat a :: ·)

/-- A string after its opening quote. -/
def readString (cs : List Char) : Option (Option String × List Char) :=
  (pieces cs).map fun r => ((join r.1).map String.ofList, r.2)

/-- One or more digits. -/
def digits1 (cs : List Char) : Option (List Char × List Char) :=
  match cs.takeWhile Char.isDigit with
  | [] => none
  | ds => some (ds, cs.dropWhile Char.isDigit)

/-- The whole part of a number: a single zero, or digits that begin with
another digit. -/
def wholePart (cs : List Char) : Option (List Char × List Char) :=
  match cs with
  | '0' :: rest => some (['0'], rest)
  | cs => digits1 cs

/-- The decimals of a number, if there are any. -/
def decimals (cs : List Char) : Option (List Char × List Char) :=
  match cs with
  | '.' :: rest => (digits1 rest).map fun r => ('.' :: r.1, r.2)
  | cs => some ([], cs)

/-- The exponent of a number, if there is one. -/
def exponentPart (cs : List Char) : Option (List Char × List Char) :=
  match cs with
  | e :: rest =>
    if e == 'e' || e == 'E' then
      match rest with
      | s :: rest' =>
        if s == '+' || s == '-' then (digits1 rest').map fun r => (e :: s :: r.1, r.2)
        else (digits1 rest).map fun r => (e :: r.1, r.2)
      | [] => none
    else some ([], cs)
  | [] => some ([], [])

/-- A number as it is spelled. -/
def readNumber (cs : List Char) : Option (String × List Char) := do
  let (sign, cs) := match cs with
    | '-' :: rest => (['-'], rest)
    | cs => ([], cs)
  let (whole, cs) ← wholePart cs
  let (fraction, cs) ← decimals cs
  let (exponent, cs) ← exponentPart cs
  some (String.ofList (sign ++ whole ++ fraction ++ exponent), cs)

mutual

/-- A value, after blanks.  `fuel` bounds the depth of the recursion. -/
def readValue : (fuel : Nat) → List Char → Option (Value × List Char)
  | 0, _ => none
  | fuel + 1, cs =>
    match skipBlanks cs with
    | 'n' :: 'u' :: 'l' :: 'l' :: rest => some (.null, rest)
    | 't' :: 'r' :: 'u' :: 'e' :: rest => some (.bool true, rest)
    | 'f' :: 'a' :: 'l' :: 's' :: 'e' :: rest => some (.bool false, rest)
    | '"' :: rest => (readString rest).map fun r => (.text r.1, r.2)
    | '[' :: rest =>
      match skipBlanks rest with
      | ']' :: rest => some (.list [], rest)
      | rest => (readItems fuel rest).map fun r => (.list r.1, r.2)
    | '\x7b' :: rest =>
      match skipBlanks rest with
      | '\x7d' :: rest => some (.object [], rest)
      | rest => (readFields fuel rest).map fun r => (.object r.1, r.2)
    | cs => (readNumber cs).map fun r => (.number r.1, r.2)

/-- The items of a list that is not empty, up to its end. -/
def readItems : (fuel : Nat) → List Char → Option (List Value × List Char)
  | 0, _ => none
  | fuel + 1, cs =>
    match readValue fuel cs with
    | none => none
    | some (item, rest) =>
      match skipBlanks rest with
      | ']' :: rest => some ([item], rest)
      | ',' :: rest => (readItems fuel rest).map fun r => (item :: r.1, r.2)
      | _ => none

/-- The fields of an object that is not empty, up to its end. -/
def readFields : (fuel : Nat) → List Char → Option (List (Option String × Value) × List Char)
  | 0, _ => none
  | fuel + 1, cs =>
    match skipBlanks cs with
    | '"' :: rest =>
      match readString rest with
      | none => none
      | some (name, rest) =>
        match skipBlanks rest with
        | ':' :: rest =>
          match readValue fuel rest with
          | none => none
          | some (value, rest) =>
            match skipBlanks rest with
            | '\x7d' :: rest => some ([(name, value)], rest)
            | ',' :: rest => (readFields fuel rest).map fun r => ((name, value) :: r.1, r.2)
            | _ => none
        | _ => none
    | _ => none

end

/-- The value of a text that is one JSON value and blanks.  Every level of the
recursion takes a character or stands right before one that does, so twice the
length of the text bounds it. -/
def read (s : String) : Option Value :=
  let cs := s.toList
  match readValue (2 * cs.length + 2) cs with
  | some (value, rest) => if (skipBlanks rest).isEmpty then some value else none
  | none => none

end HealthWatch.Json
