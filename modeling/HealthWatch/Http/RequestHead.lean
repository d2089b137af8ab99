import HealthWatch.Decimal.Reading
import HealthWatch.Http.Target

/-!
# Reading requests from a connection

`RequestHead.read` takes the head of a request off the bytes of a connection:
the request line and the header fields, up to an empty line.  Lines end in a
line feed, with or without a carriage return before it, and empty lines before
a request are skipped.  A byte that cannot stand where it stands is found
before it is found that the head is not complete.

The bytes of a connection are the characters below U+0100.
-/

namespace HealthWatch.Http

/-- The bytes of a text as characters. -/
def bytesOf (s : String) : List Char := s.toUTF8.toList.map fun b => Char.ofNat b.toNat

/-- Why no request could be read. -/
inductive ReadFailure where
  /-- The bytes end before the head does. -/
  | incomplete
  /-- The bytes are no request. -/
  | malformed
  /-- The head has too many fields, or announces too long a body. -/
  | tooLarge
  | targetTooLong
deriving DecidableEq

/-- The versions of the protocol that are spoken. -/
inductive Version where
  | http10
  | http11
deriving DecidableEq

/-- The name of a version. -/
def Version.text : Version → String
  | .http10 => "HTTP/1.0"
  | .http11 => "HTTP/1.1"

/-- What follows the head of a request. -/
inductive Framing where
  /-- As many bytes as the request says. -/
  | length (n : Nat)
  /-- Chunks that tell their own length. -/
  | chunked
deriving DecidableEq

/-- The head of a request. -/
structure RequestHead where
  method : String
  path : String
  version : Version
  framing : Framing
  /-- Whether the connection stays open after the answer. -/
  keepAlive : Bool
  /-- Whether the client waits for a sign before it sends the body. -/
  awaitsSign : Bool
deriving DecidableEq

/-- The characters of methods and of the names of header fields. -/
def isToken (c : Char) : Bool := c.isAlphanum || "!#$%&'*+-.^_`|~".toList.contains c

/-- The characters of the value of a header field. -/
def isFieldChar (c : Char) : Bool :=
  c == '\t' || (decide (' ' ≤ c) && c != '\x7f')

/-- Whether a character is one of those that end lines. -/
def isLineEnd (c : Char) : Bool := c == '\r' || c == '\n'

/-- Skips line ends. -/
def skipEmptyLines : List Char → List Char
  | '\r' :: '\n' :: rest => skipEmptyLines rest
  | '\n' :: rest => skipEmptyLines rest
  | cs => cs

/-- The end of a line. -/
def lineEnd : List Char → Except ReadFailure (List Char)
  | '\n' :: rest => .ok rest
  | '\r' :: '\n' :: rest => .ok rest
  | ['\r'] => .error .incomplete
  | [] => .error .incomplete
  | _ => .error .malformed

/-- One or more characters of a kind, up to a blank, which is taken too. -/
def word (isKind : Char → Bool) (cs : List Char) : Except ReadFailure (List Char × List Char) :=
  match cs.dropWhile isKind with
  | [] => .error .incomplete
  | ' ' :: rest =>
    let w := cs.takeWhile isKind
    if w.isEmpty then .error .malformed else .ok (w, rest)
  | _ => .error .malformed

/-- Takes `expected` off the front. -/
def literal (expected cs : List Char) : Except ReadFailure (List Char) :=
  match expected, cs with
  | [], cs => .ok cs
  | _ :: _, [] => .error .incomplete
  | e :: es, c :: cs => if e = c then literal es cs else .error .malformed

/-- The version of a request line. -/
def versionOf (cs : List Char) : Except ReadFailure (Version × List Char) := do
  match ← literal "HTTP/1.".toList cs with
  | '0' :: rest => .ok (.http10, rest)
  | '1' :: rest => .ok (.http11, rest)
  | [] => .error .incomplete
  | _ => .error .malformed

/-- Blanks inside a line. -/
def isInlineBlank (c : Char) : Bool := c == ' ' || c == '\t'

/-- Removes the blanks around a text. -/
def trimBlanks (cs : List Char) : List Char :=
  ((cs.dropWhile isInlineBlank).reverse.dropWhile isInlineBlank).reverse

/-- One header field: its name in lower case, and its value. -/
def field (cs : List Char) : Except ReadFailure ((String × String) × List Char) := do
  let name := cs.takeWhile isToken
  match cs.dropWhile isToken with
  | [] => .error .incomplete
  | ':' :: rest =>
    if name.isEmpty then .error .malformed
    else
      let value := rest.takeWhile isFieldChar
      let rest ← lineEnd (rest.dropWhile isFieldChar)
      .ok ((String.ofList (name.map Char.toLower), String.ofList (trimBlanks value)), rest)
  | _ => .error .malformed

/-- The header fields up to an empty line; at most `left` of them. -/
def fields : (left : Nat) → List Char → Except ReadFailure (List (String × String) × List Char)
  | left, cs =>
    match cs with
    | [] => .error .incomplete
    | '\n' :: rest => .ok ([], rest)
    | '\r' :: _ => do .ok ([], ← lineEnd cs)
    | cs =>
      match left with
      | 0 => .error .tooLarge
      | left + 1 => do
        let (f, rest) ← field cs
        let (fs, rest) ← fields left rest
        .ok (f :: fs, rest)

/-- The parts of a value between commas, without the blanks around them, in
lower case.  A value with a byte outside ASCII has none. -/
def options (value : String) : List String :=
  if value.toList.all (·.toNat < 0x80) then
    (value.splitOn ",").map fun s => String.ofList ((trimBlanks s.toList).map Char.toLower)
  else []

/-- What the header fields say about the message. -/
structure FieldScan where
  keepAlive : Bool
  length : Option Nat
  /-- Whether a transfer coding was named, and whether the last was chunks. -/
  coding : Option Bool
  /-- Whether a sign is expected before the body. -/
  awaitsSign : Bool

/-- The length of a body that a text of digits spells. -/
def lengthOf (value : String) : Except ReadFailure Nat :=
  match (natOfDigits? value).filter (· < Nat.pow 2 64) with
  | none => .error .malformed
  | some n => if n < Nat.pow 2 64 - 2 then .ok n else .error .tooLarge

/-- What one more header field says. -/
def FieldScan.next (version : Version) (s : FieldScan) (f : String × String) :
    Except ReadFailure FieldScan :=
  if f.1 = "transfer-encoding" then
    if version = .http10 then .error .malformed
    else .ok { s with coding := some ((options f.2).getLast? == some "chunked") }
  else if f.1 = "content-length" then
    if s.coding.isSome then .ok s
    else do
      let n ← lengthOf f.2
      match s.length with
      | none => .ok { s with length := some n }
      | some m => if n = m then .ok s else .error .malformed
  else if f.1 = "connection" then
    if s.keepAlive then .ok { s with keepAlive := !(options f.2).contains "close" }
    else .ok { s with keepAlive := (options f.2).contains "keep-alive" }
  else if f.1 = "expect" then .ok { s with awaitsSign := f.2.toLower == "100-continue" }
  else .ok s

/-- The framing that the header fields ask for. -/
def FieldScan.framing? (s : FieldScan) : Except ReadFailure Framing :=
  match s.coding with
  | some true => .ok .chunked
  | some false => .error .malformed
  | none => .ok (.length (s.length.getD 0))

/-- The most header fields that a request may have. -/
def maxFields : Nat := 100

/-- The most characters that a target may have. -/
def maxTarget : Nat := 65534

/-- The characters of a target in a request line. -/
def isTargetChar (c : Char) : Bool := decide ('!' ≤ c) && c != '\x7f'

/-- Takes the head of a request off the bytes of a connection. -/
def RequestHead.read (cs : List Char) : Except ReadFailure (RequestHead × List Char) := do
  let cs := skipEmptyLines cs
  if cs = ['\r'] then .error .incomplete
  let (method, rest) ← word isToken cs
  let (target, rest) ← word isTargetChar rest
  let (version, rest) ← versionOf rest
  let rest ← lineEnd rest
  let (fs, rest) ← fields maxFields rest
  if maxTarget < target.length then .error .targetTooLong
  else
    match Target.path? (String.ofList target) with
    | none => .error .malformed
    | some path =>
      let scan ← fs.foldlM (FieldScan.next version) ⟨version == .http11, none, none, false⟩
      let framing ← scan.framing?
      .ok (⟨String.ofList method, path, version, framing, scan.keepAlive, scan.awaitsSign⟩,
        rest)

end HealthWatch.Http
