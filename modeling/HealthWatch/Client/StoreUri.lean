import HealthWatch.Client.Endpoint

/-!
# Connection strings of document stores

A connection string is `mongodb://who@hosts/database?options`, of which all but
the hosts may be missing.  Every option must be known and have a value of its
type, and some of them do not go together.

Only strings that stand by themselves are read: none whose hosts are to be looked
up, as those of `mongodb+srv`, and no options that name files.
-/

namespace HealthWatch.Client

open HealthWatch.Net

/-- Splits a text at the first of a mark, if it is there. -/
def splitFirst (mark s : String) : Option (String × String) :=
  match s.splitOn mark with
  | before :: next :: rest => some (before, mark.intercalate (next :: rest))
  | _ => none

/-- Splits a text at the last of a mark, if it is there. -/
def splitLast (mark s : String) : Option (String × String) :=
  match (s.splitOn mark).reverse with
  | last :: before :: rest => some (mark.intercalate (before :: rest).reverse, last)
  | _ => none

/-! ## Hosts -/

/-- A host of a document store. -/
inductive StoreHost where
  | socket (path : String)
  | tcp (address : String)

/-- Whether a port may be one of a host. -/
def isPort (s : String) : Bool := (countOfText? 0x10000 s).any (· != 0)

/-- Reads a host: the path of a socket, an address of version 6 in brackets, or a
name; the latter two perhaps with a port. -/
def StoreHost.ofText? (s : String) : Option StoreHost :=
  if s.endsWith ".sock" then (percentDecoded? s.toList).map .socket
  else if s.startsWith "[" then do
    let (address, rest) ← splitFirst "]" (s.drop 1).toString
    guard ((Ipv6.ofText? address).isSome)
    guard (rest.isEmpty || (rest.startsWith ":" && isPort (rest.drop 1).toString))
    some (.tcp s)
  else
    match splitFirst ":" s with
    | some (name, port) => if !name.isEmpty && isPort port then some (.tcp s) else none
    | none => if s.isEmpty then none else some (.tcp s)

/-! ## Who asks -/

/-- Whether every `%` is followed by two hexadecimal digits. -/
def isEscaped : List Char → Bool
  | [] => true
  | '%' :: a :: b :: rest =>
    (hexDigit? a).isSome && (hexDigit? b).isSome && isEscaped (a :: b :: rest)
  | c :: rest => c != '%' && isEscaped rest

/-- Whether a name or a password in a connection string is encoded as it must
be. -/
def isEncodedCredential (s : String) : Bool :=
  !(s.toList.any fun c => ":/?#[]@".toList.contains c) && isEscaped s.toList && isEncodedText s

/-- Who asks. -/
structure StoreUser where
  name : String
  password : Option String

/-- Reads who asks: a name, perhaps with a password. -/
def StoreUser.ofText? (s : String) : Option StoreUser :=
  let user := match splitFirst ":" s with
    | some (name, password) => StoreUser.mk name (some password)
    | none => ⟨s, none⟩
  if isEncodedCredential user.name && user.password.all isEncodedCredential then some user
  else none

/-! ## Options -/

/-- An option of a connection string. -/
structure StoreOption where
  /-- The name as it is written. -/
  spelling : String
  value : String

/-- The name of an option, for which capitals do not matter. -/
def StoreOption.name (o : StoreOption) : String := o.spelling.toLower

/-- The text that a percent-encoded text stands for; itself, if it stands for bytes
that are no text. -/
def optionText (s : String) : String := (percentDecoded? s.toList).getD s

/-- Reads an option. -/
def StoreOption.ofText? (s : String) : Option StoreOption :=
  (splitFirst "=" s).map fun (spelling, value) => ⟨spelling, optionText value⟩

/-- Whether a text is a flag. -/
def isFlag (s : String) : Bool := s == "true" || s == "false"

/-- The integer of a text, if it has so many bits. -/
def integerOfText? (bits : Nat) (s : String) : Option Int :=
  match s.toList with
  | '-' :: ds =>
    ((natOfDigits? (String.ofList ds)).filter (· ≤ Nat.pow 2 (bits - 1))).map fun n => -(n : Int)
  | _ => (countOfText? (Nat.pow 2 (bits - 1)) s).map Int.ofNat

/-- Whether a list of properties consists of names and values.  What only a program
can give may not be among them. -/
def areProperties (s : String) : Bool :=
  (s.splitOn ",").all fun property =>
    (splitFirst ":" property).any fun (name, _) =>
      !(["ALLOWED_HOSTS", "OIDC_CALLBACK", "OIDC_HUMAN_CALLBACK"].contains name)

/-- The preferences for one kind of server over others. -/
def readPreferences : List String :=
  ["primary", "secondary", "primarypreferred", "secondarypreferred", "nearest"]

/-- The least number of milliseconds between two looks at a server. -/
def minHeartbeat : Nat := 500

/-- Whether an option is known and has a value of its type. -/
def StoreOption.holds (o : StoreOption) : Bool :=
  match o.name with
  | "appname" | "replicaset" | "readconcernlevel" => true
  | "authsource" => !o.value.isEmpty
  | "authmechanism" =>
    ["SCRAM-SHA-1", "SCRAM-SHA-256", "MONGODB-X509", "PLAIN", "MONGODB-OIDC"].contains o.value
  | "authmechanismproperties" => areProperties o.value
  | "directconnection" | "loadbalanced" | "retryreads" | "retrywrites" | "journal" | "tls"
  | "ssl" | "tlsinsecure" | "tlsallowinvalidcertificates" => isFlag o.value
  | "connecttimeoutms" | "localthresholdms" | "maxidletimems" | "serverselectiontimeoutms"
  | "sockettimeoutms" | "wtimeoutms" => (countOfText? (Nat.pow 2 64) o.value).isSome
  | "heartbeatfrequencyms" => (countOfText? (Nat.pow 2 64) o.value).any (minHeartbeat ≤ ·)
  | "minpoolsize" => (countOfText? (Nat.pow 2 32) o.value).isSome
  | "maxpoolsize" | "maxconnecting" => (countOfText? (Nat.pow 2 32) o.value).any (· != 0)
  | "maxstalenessseconds" => (integerOfText? 64 o.value).any (-1 ≤ ·)
  | "readpreference" => readPreferences.contains o.value.toLower
  | "readpreferencetags" =>
    o.value.isEmpty || (o.value.splitOn ",").all fun tag => (splitFirst ":" tag).isSome
  | "servermonitoringmode" => ["stream", "poll", "auto"].contains o.value
  | "uuidrepresentation" =>
    ["csharplegacy", "javalegacy", "pythonlegacy"].contains o.value.toLower
  | "w" => !(integerOfText? 32 o.value).any (· < 0)
  | _ => false

/-- The value of an option; the last one counts. -/
def optionValue? (options : List StoreOption) (name : String) : Option String :=
  (options.reverse.find? (·.name = name)).map (·.value)

/-- Whether a flag is set. -/
def isSet (options : List StoreOption) (name : String) : Bool :=
  optionValue? options name == some "true"

/-- The values of all options of some names. -/
def optionValues (options : List StoreOption) (names : List String) : List String :=
  (options.filter fun o => names.contains o.name).map (·.value)

/-- Whether no option but the tags of servers is written twice. -/
def areWrittenOnce (options : List StoreOption) : Bool :=
  ((options.filter fun o => o.name != "readpreferencetags").map (·.spelling)).Nodup

/-- Whether the options of encryption go together.  Encryption is told once, or
always in the same way; how strict it is may be told by two options, of which one
is the opposite of the other, and only if there is encryption. -/
def isEncryptionConsistent (options : List StoreOption) : Bool :=
  let told := optionValues options ["tls", "ssl"]
  let insecure := optionValues options ["tlsinsecure"]
  let allowed := optionValues options ["tlsallowinvalidcertificates"]
  let opposite (s : String) : String := if s == "true" then "false" else "true"
  told.eraseDups.length ≤ 1 && (insecure.map opposite ++ allowed).eraseDups.length ≤ 1 &&
    !(told.contains "false" && (!insecure.isEmpty || !allowed.isEmpty))

/-- Whether the options that choose a server go together.  Only a server that need
not be the first one can be told to be of some kind, or how far it may lag behind. -/
def isPreferenceConsistent (options : List StoreOption) : Bool :=
  let preference := (optionValue? options "readpreference").map String.toLower
  let chosen := preference.any (· != "primary")
  let staleness := ((optionValue? options "maxstalenessseconds").bind (integerOfText? 64)).filter
    (0 ≤ ·)
  let heartbeat := ((optionValue? options "heartbeatfrequencyms").bind
    (countOfText? (Nat.pow 2 64))).getD 10000
  ((optionValue? options "readpreferencetags").isNone || chosen) &&
    staleness.all fun secs => chosen && 90 ≤ secs && heartbeat + 10000 ≤ 1000 * secs.toNat

/-- Whether the options go together with as many hosts. -/
def isTopologyConsistent (options : List StoreOption) (hosts : Nat) : Bool :=
  let direct := isSet options "directconnection"
  let balanced := isSet options "loadbalanced"
  !((direct || balanced) && 1 < hosts) &&
    !(balanced && (direct || (optionValue? options "replicaset").isSome))

/-- Whether the options about writing go together: what is not acknowledged is not
known to be in the journal. -/
def isWriteConsistent (options : List StoreOption) : Bool :=
  !(isSet options "journal" && ((optionValue? options "w").bind (integerOfText? 32)) == some 0)

/-- Whether who asks can be told by a mechanism. -/
def mechanismFits (options : List StoreOption) (user : Option StoreUser) (mechanism : String) :
    Bool :=
  let named := user.any fun u => !u.name.isEmpty
  let silent := !(user.any fun u => u.password.isSome)
  match mechanism with
  | "SCRAM-SHA-1" | "SCRAM-SHA-256" => named
  | "PLAIN" => named && !silent
  | _ => silent && (optionValue? options "authsource").all (· = "$external")

/-- Whether who asks and the options go together. -/
def isUserConsistent (options : List StoreOption) (user : Option StoreUser) : Bool :=
  match optionValue? options "authmechanism" with
  | some mechanism => mechanismFits options user mechanism
  | none => user.all fun u => !u.name.isEmpty

/-! ## Connection strings -/

/-- A connection string. -/
structure StoreUri where
  user : Option StoreUser
  hosts : List StoreHost
  options : List StoreOption

/-- The characters that the name of a database may not have. -/
def isDatabaseName (s : String) : Bool :=
  (percentDecoded? s.toList).any fun name =>
    !name.toList.any fun c => "/\\ \"$".toList.contains c

/-- Whether all parts of a connection string go together. -/
def StoreUri.isConsistent (u : StoreUri) : Bool :=
  areWrittenOnce u.options && isEncryptionConsistent u.options &&
    isPreferenceConsistent u.options && isTopologyConsistent u.options u.hosts.length &&
    isWriteConsistent u.options && isUserConsistent u.options u.user

/-- Reads a connection string. -/
def StoreUri.ofText? (s : String) : Option StoreUri := do
  let (scheme, rest) ← splitFirst "://" s
  guard (scheme == "mongodb")
  let (front, options) := (splitFirst "?" rest).getD (rest, "")
  let (who, place) := match splitLast "@" front with
    | some (who, place) => (some who, place)
    | none => (none, front)
  let (hosts, database) := (splitFirst "/" place).getD (place, "")
  guard (isDatabaseName database)
  let user ← match who with
    | some who => (StoreUser.ofText? who).map some
    | none => some none
  let hosts ← (hosts.splitOn ",").mapM StoreHost.ofText?
  let options ← (if options.isEmpty then [] else options.splitOn "&").mapM StoreOption.ofText?
  let uri : StoreUri := ⟨user, hosts, options⟩
  guard (options.all (·.holds) && uri.isConsistent)
  some uri

/-- What is demanded of a server.  Among several hosts only servers of a set are
looked for. -/
def StoreUri.demand? (u : StoreUri) : Option Demand :=
  if isSet u.options "loadbalanced" then some .balancing
  else if (optionValue? u.options "replicaset").isSome || 1 < u.hosts.length then
    some .membership
  else if u.user.isSome || (optionValue? u.options "authmechanism").isSome then some .login
  else none

/-- The endpoint of a document store: the first of the hosts. -/
def mongoEndpoint? (uri : String) : Option Endpoint := do
  let uri ← StoreUri.ofText? uri
  match ← uri.hosts.head? with
  | .socket path => some (socketAt path uri.demand?)
  | .tcp address => some (.host address)

end HealthWatch.Client
