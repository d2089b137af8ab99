import HealthWatch.Net.Ip

/-!
# Socket addresses

An IP address and a port: `127.0.0.1:80`, `[::1]:80`.  An address of version 6
may carry the number of a scope, `[fe80::1%2]:80`.  Names of hosts are not read
here.
-/

namespace HealthWatch.Net

/-- An address to bind to. -/
inductive SocketAddress where
  | v4 (ip : Ipv4) (port : Nat)
  | v6 (ip : Ipv6) (scope port : Nat)
deriving DecidableEq

namespace SocketAddress

/-- The port of an address. -/
def port : SocketAddress → Nat
  | .v4 _ port => port
  | .v6 _ _ port => port

/-- A port: digits that spell a number of 16 bits. -/
def port? (s : String) : Option Nat := (natOfDigits? s).filter (· < 0x10000)

/-- The text of an address.  One that stands for an address of version 4 shows
it in its last two groups, and a scope of zero is not written. -/
def text : SocketAddress → String
  | .v4 ip port => s!"{ip.text}:{port}"
  | .v6 ip scope port =>
    let host := match ip.mapped? with
      | some inner => "::ffff:" ++ inner.text
      | none => ip.text
    let scope := if scope = 0 then "" else s!"%{scope}"
    s!"[{host}{scope}]:{port}"

/-- Reads what stands between the brackets: an address and perhaps a scope. -/
def scoped? (s : String) : Option (Ipv6 × Nat) :=
  match s.splitOn "%" with
  | [ip] => (Ipv6.ofText? ip).map (·, 0)
  | [ip, scope] => do
    let ip ← Ipv6.ofText? ip
    let scope ← (natOfDigits? scope).filter (· < Nat.pow 2 32)
    some (ip, scope)
  | _ => none

/-- Reads the text of an address. -/
def ofText? (s : String) : Option SocketAddress :=
  match s.toList with
  | '[' :: _ =>
    match s.splitOn "]:" with
    | [inside, port] => do
      let (ip, scope) ← scoped? (inside.drop 1).toString
      some (.v6 ip scope (← port? port))
    | _ => none
  | _ =>
    match s.splitOn ":" with
    | [ip, port] => do some (.v4 (← Ipv4.ofText? ip) (← port? port))
    | _ => none

end SocketAddress

end HealthWatch.Net
