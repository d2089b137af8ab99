import HealthWatch.Net.Folding
import HealthWatch.Net.Punycode
import HealthWatch.Text.Composed
import HealthWatch.Text.Direction
import HealthWatch.Text.Joining
import HealthWatch.Text.Mark

/-!
# Names of domains

A name is folded and put into its normal form, and then cut into labels at its
points.  A label with characters outside ASCII is written in Punycode behind the
mark `xn--`.  A label that already has the mark must stand for such a label, which
folding and the normal form leave as it is.

Some names are refused because they could not be read as they are written: a
label that begins with a mark, one in which letters are joined or kept apart that
would not join anyway, and, if any part of the name is written from right to left,
a label whose characters would not stay together.
-/

namespace HealthWatch.Net.Domain

open HealthWatch.Text

/-- The characters of ASCII that no name of a domain may have. -/
def isForbidden (c : Char) : Bool :=
  c.toNat ≤ 0x20 || c.toNat == 0x7f || "#%/:<>?@[\\]^|".toList.contains c

/-- Whether a character is one of ASCII. -/
def isAscii (c : Char) : Bool := c.toNat < 0x80

/-- The mark of a label in Punycode. -/
def mark : List Char := "xn--".toList

/-- How long a label may be that is written in Punycode, with and without. -/
def maxEncodedLength : Nat := 2000

@[inherit_doc maxEncodedLength]
def maxPlainLength : Nat := 1000

/-- The labels of a name: what stands between its points. -/
def labels : List Char → List (List Char)
  | [] => [[]]
  | c :: rest =>
    match labels rest with
    | [] => [[c]]
    | first :: others => if c = '.' then [] :: first :: others else (c :: first) :: others

/-- What a folded label stands for. -/
def plainLabel? (cs : List Char) : Option (List Char) :=
  if mark.isPrefixOf cs then do
    let encoded := cs.drop mark.length
    guard (encoded.length ≤ maxEncodedLength && encoded.all isAscii)
    let plain ← Punycode.decode? encoded
    guard (!plain.all isAscii && plain.all isFolded && composed plain = plain)
    some plain
  else some cs

/-- A label in ASCII. -/
def asciiLabel? (cs : List Char) : Option (List Char) :=
  if cs.all isAscii then some cs
  else if cs.length ≤ maxPlainLength then some (mark ++ Punycode.encode cs)
  else none

/-! ## Which labels are refused -/

/-- Whether a character that joins letters or keeps them apart has an effect
between the letters before it, the nearest one first, and those after it.  It has
one behind the sign that a vowel is left out; else only one that keeps letters
apart has, between letters that would join. -/
def joinerHasEffect (before : List Char) (c : Char) (after : List Char) : Bool :=
  (before.head?.any fun b => markClass b = 9) ||
    (c = nonJoiner && startsJoining joinsNextCodePoints before &&
      startsJoining joinsPreviousCodePoints after)

/-- Whether every character of a label that joins letters or keeps them apart has
an effect.  `before` is the part of the label that was looked at, backwards. -/
def joinersHaveEffect (before : List Char) : List Char → Bool
  | [] => true
  | c :: rest =>
    (!(c = joiner || c = nonJoiner) || joinerHasEffect before c rest) &&
      joinersHaveEffect (c :: before) rest

/-- Whether a label can be read by itself. -/
def isReadable (label : List Char) : Bool :=
  !(label.head?.any isMark) && joinersHaveEffect [] label

/-- Whether a direction is one of those that are written from right to left. -/
def isRightToLeft (d : Direction) : Bool :=
  d = .rightToLeft || d = .arabic || d = .arabicDigit

/-- Whether a direction is one that characters in the middle of any label may have,
other than those of letters. -/
def isWeak (d : Direction) : Bool :=
  [.digit, .sign, .separator, .unit, .neutral, .boundary, .mark].contains d

/-- Whether the characters of a label stay together between other labels, by their
directions (RFC 5893).  The first tells the direction of the label, the last one
that is no mark must be a letter or a digit, and digits of two kinds may not meet
in a label that is written from right to left. -/
def staysTogether (label : List Direction) : Bool :=
  let last? := (label.reverse.dropWhile (· = .mark)).head?
  match label with
  | [] => true
  | .leftToRight :: _ =>
    label.all (fun d => d = .leftToRight || isWeak d) &&
      last?.any fun d => d = .leftToRight || d = .digit
  | .rightToLeft :: _ | .arabic :: _ =>
    label.all (fun d => isRightToLeft d || isWeak d) &&
      (last?.any fun d => isRightToLeft d || d = .digit) &&
      !(label.contains .digit && label.contains .arabicDigit)
  | _ => false

/-- Whether the characters of all labels stay together. -/
def stayTogether (labels : List (List Char)) : Bool :=
  let directions := labels.map fun label => label.map direction
  !(directions.any fun label => label.any isRightToLeft) || directions.all staysTogether

/-! ## Names in ASCII -/

/-- The name of a domain in ASCII. -/
def ascii? (name : String) : Option String := do
  let plain ← (labels (composed (← fold? name.toList))).mapM plainLabel?
  guard (!plain.any fun label => label.any isForbidden)
  guard (plain.all isReadable && stayTogether plain)
  some (String.ofList (List.intercalate ['.'] (← plain.mapM asciiLabel?)))

end HealthWatch.Net.Domain
