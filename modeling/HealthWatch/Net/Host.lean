import HealthWatch.Net.Domain
import HealthWatch.Net.Percent

/-!
# Hosts of URLs

A host is an address or a name.  In the schemes that every browser knows, a
name whose last label is a number is an address of version 4, of which every
part may be decimal, octal (`017`) or hexadecimal (`0x0f`), and of which the
last part fills the octets that are left: `1.2.3` is `1.2.0.3`.
-/

namespace HealthWatch.Net

/-- The host of a URL. -/
inductive Host where
  | name (s : String)
  | v4 (ip : Ipv4)
  | v6 (ip : Ipv6)
deriving DecidableEq

namespace Host

/-- The text of a host. -/
def text : Host → String
  | .name s => s
  | .v4 ip => ip.text
  | .v6 ip => "[" ++ ip.text ++ "]"

/-- What a part of an address is: a number, or a number that is too large. -/
inductive AddressPart where
  | number (n : Nat)
  | overflow

/-- The digits of a part and their base. -/
def basedDigits (cs : List Char) : Nat × List Char :=
  match cs with
  | '0' :: 'x' :: ds => (16, ds)
  | '0' :: 'X' :: ds => (16, ds)
  | '0' :: d :: ds => (8, d :: ds)
  | ds => (10, ds)

/-- The number that digits of a base spell. -/
def natInBase? (base : Nat) (cs : List Char) : Option Nat :=
  cs.foldlM (fun n c => ((hexDigit? c).filter (· < base)).map (base * n + ·)) 0

/-- Reads a part of an address.  A mark of a base alone is zero. -/
def addressPart? (cs : List Char) : Option AddressPart :=
  if cs.isEmpty then none
  else
    let (base, ds) := basedDigits cs
    (natInBase? base ds).map fun n => if n < Nat.pow 2 32 then .number n else .overflow

/-- The parts of a name, without the empty one after a final point. -/
def addressParts (name : List Char) : List (List Char) :=
  let parts := Domain.labels name
  if 1 < parts.length && parts.getLast? == some [] then parts.dropLast else parts

/-- Whether the last part of a name is a number. -/
def endsInNumber (name : List Char) : Bool :=
  match (addressParts name).getLast? with
  | some last =>
    (!last.isEmpty && last.all Char.isDigit) || (addressPart? last).isSome
  | none => false

/-- The address of its parts: all but the last fill one octet each. -/
def addressOfParts? (parts : List (List Char)) : Option Ipv4 := do
  let numbers ← parts.mapM fun part =>
    match addressPart? part with
    | some (.number n) => some n
    | _ => none
  let front := numbers.dropLast
  let last ← numbers.getLast?
  if front.length ≤ 3 && front.all (· < 0x100) && decide (last < Nat.pow 0x100 (4 - front.length)) then
    let octets := front ++ List.replicate (4 - front.length) 0
    some (.ofNat (octets.foldl (fun n o => 0x100 * n + o) 0 + last))
  else none

/-- What stands inside brackets at both ends. -/
def bracketed? (cs : List Char) : Option (List Char) :=
  match cs with
  | '[' :: rest => if rest.getLast? = some ']' then some rest.dropLast else none
  | _ => none

/-- Reads the host of a URL of one of the schemes that every browser knows. -/
def ofSpecial? (cs : List Char) : Option Host :=
  if cs.head? = some '[' then do
    some (.v6 (← Ipv6.ofText? (String.ofList (← bracketed? cs))))
  else do
    let name ← Domain.ascii? (← percentDecoded? cs)
    if name.isEmpty then none
    else if endsInNumber name.toList then
      (addressOfParts? (addressParts name.toList)).map .v4
    else some (.name name)

/-- The characters that the host of a URL of any other scheme may not have. -/
def isForbidden (c : Char) : Bool :=
  c.toNat == 0 || " #/:<>?@[\\]^|".toList.contains c

/-- Reads the host of a URL of any other scheme. -/
def ofOther? (cs : List Char) : Option Host :=
  if cs.head? = some '[' then do
    some (.v6 (← Ipv6.ofText? (String.ofList (← bracketed? cs))))
  else if cs.any isForbidden then none
  else some (.name (UrlPart.opaquePath.encode cs))

end Host

end HealthWatch.Net
