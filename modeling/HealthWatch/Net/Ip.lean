import HealthWatch.Decimal.Reading

/-!
# IP addresses and their texts

An address of version 4 is four octets, written in decimal with points.  An
address of version 6 is eight groups of sixteen bits, written in hexadecimal
with colons, in which the longest run of at least two zero groups is written as
`::`; of runs of one length it is the first.  The last two groups may be read
from the text of an address of version 4.
-/

namespace HealthWatch.Net

/-- An address of version 4. -/
structure Ipv4 where
  a : Nat
  b : Nat
  c : Nat
  d : Nat
deriving DecidableEq

/-- An address of version 6. -/
structure Ipv6 where
  groups : List Nat
  eight : groups.length = 8
deriving DecidableEq

namespace Ipv4

/-- The address of a number of 32 bits. -/
def ofNat (n : Nat) : Ipv4 :=
  ⟨n / 0x1000000 % 0x100, n / 0x10000 % 0x100, n / 0x100 % 0x100, n % 0x100⟩

/-- The text of an address. -/
def text (ip : Ipv4) : String := s!"{ip.a}.{ip.b}.{ip.c}.{ip.d}"

/-- An octet: one to three digits without a leading zero. -/
def octet? (s : String) : Option Nat := do
  let n ← natOfDigits? s
  if n < 0x100 && s == toString n then some n else none

/-- Reads the text of an address. -/
def ofText? (s : String) : Option Ipv4 :=
  match s.splitOn "." with
  | [a, b, c, d] => do some ⟨← octet? a, ← octet? b, ← octet? c, ← octet? d⟩
  | _ => none

end Ipv4

/-- The value of a hexadecimal digit. -/
def hexDigit? (c : Char) : Option Nat :=
  if c.isDigit then some (c.toNat - '0'.toNat)
  else if 'a' ≤ c ∧ c ≤ 'f' then some (c.toNat - 'a'.toNat + 10)
  else if 'A' ≤ c ∧ c ≤ 'F' then some (c.toNat - 'A'.toNat + 10)
  else none

/-- The number that one or more hexadecimal digits spell. -/
def natOfHex? (cs : List Char) : Option Nat :=
  if cs.isEmpty then none
  else cs.foldlM (fun n c => (hexDigit? c).map (16 * n + ·)) 0

namespace Ipv6

/-- A group: one to four hexadecimal digits. -/
def group? (s : String) : Option Nat :=
  if s.length ≤ 4 then natOfHex? s.toList else none

/-- Groups of which the last one may be the text of an address of version 4,
which counts for two. -/
def lastGroups? : List String → Option (List Nat)
  | [] => some []
  | [last] =>
    match Ipv4.ofText? last with
    | some ip => some [ip.a * 0x100 + ip.b, ip.c * 0x100 + ip.d]
    | none => (group? last).map ([·])
  | s :: rest => do some ((← group? s) :: (← lastGroups? rest))

/-- The parts between single colons; an empty text has none. -/
def colonParts (s : String) : List String := if s.isEmpty then [] else s.splitOn ":"

/-- The groups of a text, in which `::` stands for at least one zero group. -/
def groups? (s : String) : Option (List Nat) :=
  match s.splitOn "::" with
  | [all] => lastGroups? (colonParts all)
  | [front, back] => do
    let front ← (colonParts front).mapM group?
    let back ← lastGroups? (colonParts back)
    let known := front.length + back.length
    if known < 8 then some (front ++ List.replicate (8 - known) 0 ++ back) else none
  | _ => none

/-- Reads the text of an address. -/
def ofText? (s : String) : Option Ipv6 := do
  let groups ← groups? s
  if h : groups.length = 8 then some ⟨groups, h⟩ else none

/-- How many zero groups there are from a place on. -/
def zerosFrom (groups : List Nat) (start : Nat) : Nat :=
  ((groups.drop start).takeWhile (· == 0)).length

/-- Where the longest run of zero groups begins, and its length. -/
def longestZeros (groups : List Nat) : Nat × Nat :=
  (List.range groups.length).foldl
    (fun best start =>
      if best.2 < zerosFrom groups start then (start, zerosFrom groups start) else best)
    (0, 0)

/-- A number in hexadecimal. -/
def hex (n : Nat) : String := String.ofList (Nat.toDigits 16 n)

/-- Groups with colons between them. -/
def colonText (groups : List Nat) : String := ":".intercalate (groups.map hex)

/-- The text of an address. -/
def text (ip : Ipv6) : String :=
  let (start, length) := longestZeros ip.groups
  if 2 ≤ length then
    colonText (ip.groups.take start) ++ "::" ++ colonText (ip.groups.drop (start + length))
  else colonText ip.groups

/-- The address of version 4 that an address stands for, if its first five
groups are zero and the sixth is all ones. -/
def mapped? (ip : Ipv6) : Option Ipv4 :=
  match ip.groups with
  | [0, 0, 0, 0, 0, 0xffff, g, h] => some ⟨g / 0x100, g % 0x100, h / 0x100, h % 0x100⟩
  | _ => none

end Ipv6

end HealthWatch.Net
