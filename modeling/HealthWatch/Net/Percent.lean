import HealthWatch.Net.Ip

/-!
# Percent encoding

A character that may not stand for itself in a part of a URL is written as the
bytes of its UTF-8 form, each as `%` and two hexadecimal digits.  Which
characters these are depends on the part; those outside U+0020 to U+007E always
belong to them.
-/

namespace HealthWatch.Net

/-- The parts of a URL that are encoded. -/
inductive UrlPart where
  | user
  | path
  /-- A path without slashes that mean anything. -/
  | opaquePath
  | query
  /-- The query of a URL of one of the schemes that every browser knows. -/
  | specialQuery
  | fragment

/-- The printable characters that are encoded in a part. -/
def UrlPart.reserved : UrlPart → List Char
  | .user => " \"<>\x60#?\x7b\x7d/:;=@[\\]^|".toList
  | .path => " \"<>\x60#?\x7b\x7d".toList
  | .opaquePath => []
  | .query => " \"#<>".toList
  | .specialQuery => " \"#<>'".toList
  | .fragment => " \"<>\x60".toList

/-- Whether a character is encoded in a part. -/
def UrlPart.encodes (part : UrlPart) (c : Char) : Bool :=
  c.toNat < 0x20 || 0x7e < c.toNat || part.reserved.contains c

/-- A hexadecimal digit in upper case. -/
def upperHexDigit (n : Nat) : Char := (Nat.digitChar n).toUpper

/-- A byte as `%` and two digits. -/
def percentByte (b : UInt8) : List Char :=
  ['%', upperHexDigit (b.toNat / 16), upperHexDigit (b.toNat % 16)]

/-- The bytes of a character in UTF-8. -/
def utf8Bytes (c : Char) : List UInt8 := (String.singleton c).toUTF8.toList

/-- The text of characters in a part. -/
def UrlPart.encode (part : UrlPart) (cs : List Char) : String :=
  String.ofList (cs.flatMap fun c =>
    if part.encodes c then (utf8Bytes c).flatMap percentByte else [c])

/-- The bytes that a text stands for.  A `%` without two digits stands for
itself. -/
def percentDecode : List Char → List UInt8
  | [] => []
  | '%' :: a :: b :: rest =>
    match hexDigit? a, hexDigit? b with
    | some a, some b => UInt8.ofNat (16 * a + b) :: percentDecode rest
    | _, _ => utf8Bytes '%' ++ percentDecode (a :: b :: rest)
  | c :: rest => utf8Bytes c ++ percentDecode rest

/-- The text that a percent-encoded text stands for, if its bytes are UTF-8. -/
def percentDecoded? (cs : List Char) : Option String :=
  String.fromUTF8? (ByteArray.mk (percentDecode cs).toArray)

end HealthWatch.Net
