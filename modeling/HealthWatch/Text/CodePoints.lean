/-!
# Sets of characters

The properties of characters that a standard defines are kept as tables.  Such a
table is a text of words with blanks between them, and the characters in it are
numbers in hexadecimal: `378-379 38B` is a set of three.
-/

namespace HealthWatch.Text

/-- The words of a table. -/
def tableWords (s : String) : List String :=
  (s.splitToList fun c => c == ' ' || c == '\n').filter (!·.isEmpty)

/-- The number that hexadecimal digits in upper case spell. -/
def hexNumber (digits : String) : Nat :=
  digits.toList.foldl (fun n c =>
    16 * n + if c.isDigit then c.toNat - '0'.toNat else c.toNat - 'A'.toNat + 10) 0

/-- The characters whose numbers lie between two others, these included. -/
structure CodePointRange where
  first : Nat
  last : Nat
deriving DecidableEq

/-- Whether a character lies in a range. -/
def CodePointRange.contains (r : CodePointRange) (c : Char) : Bool :=
  decide (r.first ≤ c.toNat) && decide (c.toNat ≤ r.last)

/-- The range of one number, or of two with a hyphen between them. -/
def CodePointRange.ofText (word : String) : CodePointRange :=
  match word.splitOn "-" with
  | [first, last] => ⟨hexNumber first, hexNumber last⟩
  | _ => ⟨hexNumber word, hexNumber word⟩

/-- A set of characters, as the ranges of which it is made. -/
structure CodePoints where
  ranges : List CodePointRange

namespace CodePoints

/-- The set of the ranges in a text. -/
def ofText (s : String) : CodePoints := ⟨(tableWords s).map CodePointRange.ofText⟩

/-- Whether a character is in a set. -/
def contains (s : CodePoints) (c : Char) : Bool := s.ranges.any (·.contains c)

end CodePoints

end HealthWatch.Text
