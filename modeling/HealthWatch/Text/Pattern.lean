import HealthWatch.Text.Alphanumeric
import HealthWatch.Text.Blank
import HealthWatch.Text.Mark

/-!
# Patterns of texts

A pattern is a regular expression that a whole text has to be of.  Of several
ways to read a text the pattern prefers one: the first of two alternatives, and
as many repetitions as there can be, or as few if a question mark follows.  The
preferred way counts alone, so `a|ab` is no pattern of `ab`.

A pattern is tried by the texts that it can leave behind it, `Pattern.rests`,
the preferred one first.
-/

namespace HealthWatch.Text

/-- A regular expression. -/
inductive Pattern where
  /-- The empty text. -/
  | nothing
  /-- The empty text at the start. -/
  | start
  /-- The empty text at the end. -/
  | finish
  /-- A character of a set. -/
  | one (has : Char → Bool)
  /-- A text of the one and then a text of the other. -/
  | both (a b : Pattern)
  /-- A text of either; the first is preferred. -/
  | either (a b : Pattern)
  /-- Any number of texts, as many as possible if `eager`. -/
  | repeated (a : Pattern) (eager : Bool)

namespace Pattern

/-- What is left after any number of rounds of which none is empty. -/
def restsOfRounds (round : List Char → List (List Char)) (eager : Bool) :
    Nat → List Char → List (List Char)
  | 0, s => [s]
  | n + 1, s =>
    let more := ((round s).filter fun rest => decide (rest.length < s.length)).flatMap
      (restsOfRounds round eager n)
    (if eager then more ++ [s] else s :: more).eraseDups

/-- What a pattern can leave of a text, the preferred rest first; the whole text
has `size` characters. -/
def rests (size : Nat) : Pattern → List Char → List (List Char)
  | .nothing, s => [s]
  | .start, s => if s.length = size then [s] else []
  | .finish, s => if s.isEmpty then [s] else []
  | .one _, [] => []
  | .one has, c :: s => if has c then [s] else []
  | .both a b, s => ((a.rests size s).flatMap (b.rests size)).eraseDups
  | .either a b, s => (a.rests size s ++ b.rests size s).eraseDups
  | .repeated a eager, s => restsOfRounds (a.rests size) eager s.length s

/-- Whether a text is of a pattern: the preferred way leaves nothing. -/
def accepts (p : Pattern) (s : String) : Bool :=
  (p.rests s.length s.toList).head? == some []

/-! ## Reading -/

/-- The pattern of one character. -/
def char (c : Char) : Pattern := .one (· == c)

/-- Whether a character belongs to words. -/
def isWordChar (c : Char) : Bool := isAlphanumeric c || isMark c || c == '_'

/-- The value of hexadecimal digits of either case. -/
def hexValue? (digits : List Char) : Option Nat :=
  digits.foldl (fun n? c => do
    let n ← n?
    if c.isDigit then some (16 * n + (c.toNat - '0'.toNat))
    else if 'a' ≤ c.toLower ∧ c.toLower ≤ 'f' then
      some (16 * n + (c.toLower.toNat - 'a'.toNat + 10))
    else none) (some 0)

/-- The character that digits name, which are as many as the letter before them
demands, and what follows. -/
def namedChar? (digits : Nat) (cs : List Char) : Option (Char × List Char) := do
  let number ← if cs.length < digits then none else hexValue? (cs.take digits)
  if number.isValidChar then some (Char.ofNat number, cs.drop digits) else none

/-- The character that stands behind a backslash for one character, and what
follows. -/
def escapedChar? : List Char → Option (Char × List Char)
  | 'n' :: cs => some ('\n', cs)
  | 't' :: cs => some ('\t', cs)
  | 'r' :: cs => some ('\r', cs)
  | 'f' :: cs => some ('\x0c', cs)
  | 'v' :: cs => some ('\x0b', cs)
  | 'a' :: cs => some ('\x07', cs)
  | 'x' :: cs => namedChar? 2 cs
  | 'u' :: cs => namedChar? 4 cs
  | 'U' :: cs => namedChar? 8 cs
  | c :: cs =>
    if c.toNat < 0x80 ∧ !c.isAlphanum ∧ c ≠ '<' ∧ c ≠ '>' then some (c, cs) else none
  | [] => none

/-- The set of characters that a letter behind a backslash names. -/
def escapedSet? : Char → Option (Char → Bool)
  | 'd' => some Char.isDigit
  | 'D' => some fun c => !c.isDigit
  | 'w' => some isWordChar
  | 'W' => some fun c => !isWordChar c
  | 's' => some isWhiteSpace
  | 'S' => some fun c => !isWhiteSpace c
  | _ => none

/-- A member of a set in brackets, and what follows: a character or a set that a
letter names. -/
def member? : List Char → Option ((Char ⊕ (Char → Bool)) × List Char)
  | [] => none
  | '[' :: _ => none
  | '\\' :: cs =>
    match cs.head?.bind escapedSet? with
    | some set => some (.inr set, cs.tail)
    | none => (escapedChar? cs).map fun r => (.inl r.1, r.2)
  | c :: cs => some (.inl c, cs)

/-- Whether two characters combine sets in brackets. -/
def combinesSets : List Char → Bool
  | '&' :: '&' :: _ | '-' :: '-' :: _ | '~' :: '~' :: _ => true
  | _ => false

/-- The members of a set in brackets up to its end, and what follows. -/
def members? : Nat → (Char → Bool) → List Char → Option ((Char → Bool) × List Char)
  | 0, _, _ => none
  | _ + 1, has, ']' :: cs => some (has, cs)
  | n + 1, has, cs => do
    if combinesSets cs then none
    else
      match ← member? cs with
      | (.inr set, rest) => members? n (fun c => has c || set c) rest
      | (.inl first, rest) =>
        match rest with
        | '-' :: ']' :: rest =>
          some (fun c => has c || c == first || c == '-', rest)
        | '-' :: rest =>
          match ← member? rest with
          | (.inr _, _) => none
          | (.inl last, rest) =>
            if last < first then none
            else members? n (fun c => has c || (decide (first ≤ c) && decide (c ≤ last))) rest
        | rest => members? n (fun c => has c || c == first) rest

/-- A set behind its opening bracket, and what follows.  A closing bracket that
comes first is a member. -/
def set? (cs : List Char) : Option ((Char → Bool) × List Char) := do
  let (others, cs) := match cs with
    | '^' :: cs => (true, cs)
    | cs => (false, cs)
  let (has, rest) ← match cs with
    | ']' :: cs => members? (cs.length + 1) (· == ']') cs
    | cs => members? (cs.length + 1) (fun _ => false) cs
  some (if others then fun c => !has c else has, rest)

/-- The repetitions that follow a pattern, and what follows them. -/
def repetitions (p : Pattern) : List Char → Pattern × List Char
  | '*' :: '?' :: cs => repetitions (.repeated p false) cs
  | '*' :: cs => repetitions (.repeated p true) cs
  | '+' :: '?' :: cs => repetitions (.both p (.repeated p false)) cs
  | '+' :: cs => repetitions (.both p (.repeated p true)) cs
  | '?' :: '?' :: cs => repetitions (.either .nothing p) cs
  | '?' :: cs => repetitions (.either p .nothing) cs
  | cs => (p, cs)

/-- What follows the opening of a group behind its parenthesis: nothing, a mark
that the group has no number, or a name. -/
def groupBody? : List Char → Option (List Char)
  | '?' :: ':' :: cs => some cs
  | '?' :: 'P' :: '<' :: cs | '?' :: '<' :: cs =>
    match cs.span (· != '>') with
    | (name, '>' :: rest) =>
      if name.all isWordChar && name.head?.any (!·.isDigit) then some rest else none
    | _ => none
  | '?' :: _ => none
  | cs => some cs

mutual

/-- Alternatives up to a closing parenthesis or the end. -/
def alternatives? : Nat → List Char → Option (Pattern × List Char)
  | 0, _ => none
  | n + 1, cs => do
    match ← sequence? n .nothing cs with
    | (first, '|' :: cs) =>
      let (others, cs) ← alternatives? n cs
      some (.either first others, cs)
    | found => some found

/-- What stands one after the other, behind what was read. -/
def sequence? : Nat → Pattern → List Char → Option (Pattern × List Char)
  | 0, _, _ => none
  | n + 1, before, cs =>
    match cs with
    | [] | '|' :: _ | ')' :: _ => some (before, cs)
    | _ => do
      let (part, cs) ← part? n cs
      let (part, cs) := repetitions part cs
      sequence? n (.both before part) cs

/-- One character, set, anchor or group. -/
def part? : Nat → List Char → Option (Pattern × List Char)
  | 0, _ => none
  | n + 1, cs =>
    match cs with
    | [] | '*' :: _ | '+' :: _ | '?' :: _ => none
    | '.' :: cs => some (.one (· != '\n'), cs)
    | '^' :: cs | '\\' :: 'A' :: cs => some (.start, cs)
    | '$' :: cs | '\\' :: 'z' :: cs => some (.finish, cs)
    | '[' :: cs => (set? cs).map fun r => (.one r.1, r.2)
    | '(' :: cs => do
      match ← alternatives? n (← groupBody? cs) with
      | (group, ')' :: cs) => some (group, cs)
      | _ => none
    | '\\' :: cs =>
      match cs.head?.bind escapedSet? with
      | some set => some (.one set, cs.tail)
      | none => (escapedChar? cs).map fun r => (char r.1, r.2)
    | c :: cs => if c.toNat = 0x7b then none else some (char c, cs)

end

/-- Reads a pattern.  Every character takes at most four steps down. -/
def ofText? (s : String) : Option Pattern :=
  match alternatives? (4 * s.length + 4) s.toList with
  | some (p, []) => some p
  | _ => none

end Pattern

end HealthWatch.Text
