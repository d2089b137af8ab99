import HealthWatch.Client.Failure
import HealthWatch.Net.SocketAddress

/-!
# Where a client finds its peer

Each kind of client is told in its own way where its peer is: by an address, a
URL or a connection string.  What is told must be well formed before a client
is made of it; whether anyone is there shows only when it is used.
-/

namespace HealthWatch.Client

open HealthWatch.Net

/-- What a client may demand of its peer before it sends a command. -/
inductive Demand where
  /-- That what is sent be encrypted. -/
  | encryption
  /-- That the peer be one of a set of servers that share their data. -/
  | membership
  /-- That the peer know who asks. -/
  | login
  /-- That the peer stand for many servers. -/
  | balancing
deriving DecidableEq

/-- Where a peer is. -/
inductive Endpoint where
  /-- A socket of this machine, and what is demanded of its server. -/
  | socket (path : String) (demand : Option Demand)
  /-- A host that is reached over TCP. -/
  | host (address : String)
deriving DecidableEq

/-- The endpoint of a socket.  Repeated slashes and points in its path mean
nothing. -/
def socketAt (path : String) (demand : Option Demand) : Endpoint :=
  .socket ("/" ++ "/".intercalate ((path.splitOn "/").filter fun s => s != "" && s != "."))
    demand

/-! ## Addresses -/

/-- What is wrong with an address, if no connection to it can be tried. -/
def addressFault? (address : String) : Option String :=
  if (SocketAddress.ofText? address).isSome then none
  else
    match (address.splitOn ":").reverse with
    | port :: _ :: _ =>
      if (countOfText? 0x10000 port).isSome then none else some "invalid port value"
    | _ => some "invalid socket address"

/-- The error of a request to a URL, if none can be built: its text must be a
URL that names a host. -/
def buildError? (url : String) : Option DependencyError :=
  if (Url.ofText? url).any (·.host.isSome) then none
  else some (.connection "builder error")

/-! ## Key-value stores -/

/-- The pairs of a query: names and values between ampersands, in which a plus
sign is a space. -/
def queryPairs (query : String) : List (String × String) :=
  let decoded (s : String) : String :=
    (percentDecoded? (s.toList.map fun c => if c = '+' then ' ' else c)).getD s
  (query.splitOn "&").filterMap fun pair =>
    if pair.isEmpty then none
    else
      match pair.splitOn "=" with
      | [] => none
      | name :: value => some (decoded name, decoded ("=".intercalate value))

/-- Whether a text is the number of a database, which slashes may surround. -/
def isDatabaseNumber (path : String) : Bool :=
  let isSlash (c : Char) : Bool := c == '/'
  let inner := ((path.toList.dropWhile isSlash).reverse.dropWhile isSlash).reverse
  match inner with
  | [] => true
  | '-' :: ds => ((natOfDigits? (String.ofList ds)).filter (· ≤ Nat.pow 2 63)).isSome
  | cs => (countOfText? (Nat.pow 2 63) (String.ofList cs)).isSome

/-- Whether the value of an option is one that is known, if it is told.  The last
value counts. -/
def optionAmong (pairs : List (String × String)) (name : String) (known : List String) : Bool :=
  (pairs.reverse.lookup name).all known.contains

/-- Whether percent-encoded bytes are text. -/
def isEncodedText (s : String) : Bool := (percentDecoded? s.toList).isSome

/-- The endpoint of a key-value store.  The address may carry a name, a password
and the number of a database; the latter two are replaced by those given. -/
def redisEndpoint? (address : String) (password : Option String) (db : Option Nat) :
    Option Endpoint := do
  let url ← Url.ofText? ("redis://" ++ address)
  let host ← url.host
  guard (db.isSome || isDatabaseNumber (Url.pathText url.path))
  guard (isEncodedText url.user)
  guard ((password <|> url.password).all isEncodedText)
  guard (optionAmong (queryPairs (url.query.getD "")) "protocol" ["2", "resp2", "3", "resp3"])
  some (.host (host.text ++ Url.optionalText ":" (url.port.map toString)))

end HealthWatch.Client
