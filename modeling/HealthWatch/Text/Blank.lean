/-!
# Blank texts

A text is blank if all its characters are white space, which Unicode gives the
property White_Space.
-/

namespace HealthWatch.Text

/-- The characters of white space. -/
def whiteSpaces : List Nat :=
  [0x09, 0x0a, 0x0b, 0x0c, 0x0d, 0x20, 0x85, 0xa0, 0x1680, 0x2000, 0x2001, 0x2002, 0x2003,
    0x2004, 0x2005, 0x2006, 0x2007, 0x2008, 0x2009, 0x200a, 0x2028, 0x2029, 0x202f, 0x205f,
    0x3000]

/-- Whether a character is white space. -/
def isWhiteSpace (c : Char) : Bool := whiteSpaces.contains c.toNat

/-- Whether a text is blank. -/
def isBlank (s : String) : Bool := s.toList.all isWhiteSpace

end HealthWatch.Text
