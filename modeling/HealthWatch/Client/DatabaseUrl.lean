import HealthWatch.Client.Endpoint

/-!
# URLs of relational databases

The URL of a relational database tells its host and its port, and its query may
tell them anew.  A host that is a path is the directory of a socket, of which the
port is part of the name; once a socket is told, names of hosts do not matter.
-/

namespace HealthWatch.Client

open HealthWatch.Net

/-- The modes of encryption, and whether a client that has one insists on it. -/
def sslModes : List (String × Bool) :=
  [("disable", false), ("allow", false), ("prefer", false), ("require", true),
    ("verify-ca", true), ("verify-full", true)]

/-- What the URL of a database tells. -/
structure DatabaseUrl where
  host : String
  /-- The directory of the socket. -/
  directory : Option String
  port : Nat
  encrypted : Bool

/-- What a URL tells that tells nothing. -/
def DatabaseUrl.silent : DatabaseUrl := ⟨"localhost", none, 5432, false⟩

/-- What a URL tells together with an option of its query.  Most options do not
matter here, but some must have values of their types. -/
def DatabaseUrl.addOption? (u : DatabaseUrl) (name value : String) : Option DatabaseUrl :=
  match name with
  | "sslmode" | "ssl-mode" => do
    let encrypted ← sslModes.lookup value.toLower
    some { u with encrypted }
  | "port" => do
    let port ← countOfText? 0x10000 value
    some { u with port }
  | "statement-cache-capacity" => (countOfText? (Nat.pow 2 64) value).map fun _ => u
  | "host" =>
    some (if value.startsWith "/" then { u with directory := some value }
      else { u with host := value })
  | "hostaddr" =>
    if (Ipv4.ofText? value).isSome || (Ipv6.ofText? value).isSome then
      some { u with host := value }
    else none
  | _ => some u

/-- What a URL tells by its host. -/
def DatabaseUrl.ofHost? (host : Host) : Option DatabaseUrl :=
  let bytes := percentDecode host.text.toList
  if bytes.head? = some 0x2f then do
    let directory ← String.fromUTF8? (ByteArray.mk bytes.toArray)
    some { DatabaseUrl.silent with directory := some directory }
  else some { DatabaseUrl.silent with host := host.text }

/-- Reads the URL of a database. -/
def DatabaseUrl.ofText? (s : String) : Option DatabaseUrl := do
  let url ← Url.ofText? s
  guard (isEncodedText url.user && url.password.all isEncodedText &&
    isEncodedText (Url.pathText url.path))
  let start ← match url.host with
    | some host => DatabaseUrl.ofHost? host
    | none => some .silent
  let start := { start with port := url.port.getD start.port }
  (queryPairs (url.query.getD "")).foldlM (fun u (name, value) => u.addOption? name value) start

/-- The endpoint of a relational database. -/
def postgresEndpoint? (url : String) : Option Endpoint :=
  (DatabaseUrl.ofText? url).map fun u =>
    match u.directory with
    | some directory =>
      socketAt s!"{directory}/.s.PGSQL.{u.port}" (if u.encrypted then some .encryption else none)
    | none => .host u.host

end HealthWatch.Client
