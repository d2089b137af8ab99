import HealthWatch.Config
import HealthWatch.Document.Reading

/-!
# Reading a configuration from a document

A section is read field by field.  A field that is left out has its default, a
field that is there must be of its type, and what is no field is not looked at.
The order of the fields does not matter.

A dependency is different in one respect: its `kind` decides which other fields
it has, so everything but the fields that all dependencies have is taken as it
is before the kind is known.  Therefore all of it must be readable by itself,
and a number or a flag is no text there.
-/

namespace HealthWatch

open HealthWatch.Document HealthWatch.Net

/-- Reads a section that gives where to listen. -/
def ServerConfig.ofNode (node : Node) : Reading ServerConfig := do
  let default : ServerConfig := {}
  let fields ← node.fields ["listen"]
  let listen ← Node.field fields "listen" default.listen fun n => do
    ((SocketAddress.ofText? (← n.text) : Option SocketAddress) : Reading SocketAddress)
  return { listen }

/-- The bound of counts of 16, 32 and 64 bits. -/
def bound (bits : Nat) : Nat := Nat.pow 2 bits

/-- Reads a section that gives how to probe. -/
def HealthConfig.ofNode (node : Node) : Reading HealthConfig := do
  let default : HealthConfig := {}
  let fields ← node.fields
    ["interval_secs", "probe_ceiling_secs", "retry_attempts", "retry_delay_secs"]
  let intervalSecs ← Node.field fields "interval_secs" default.intervalSecs
    (Node.natural (bound 64))
  let probeCeilingSecs ← Node.field fields "probe_ceiling_secs" default.probeCeilingSecs
    (Node.natural (bound 64))
  let retryAttempts ← Node.field fields "retry_attempts" default.retryAttempts
    (Node.natural (bound 32))
  let retryDelaySecs ← Node.field fields "retry_delay_secs" default.retryDelaySecs
    (Node.natural (bound 64))
  return { intervalSecs, probeCeilingSecs, retryAttempts, retryDelaySecs }

/-- Reads a section that gives how to show the metrics. -/
def MetricsConfig.ofNode (node : Node) : Reading MetricsConfig := do
  let default : MetricsConfig := {}
  let fields ← node.fields ["enabled", "port", "path"]
  let enabled ← Node.field fields "enabled" default.enabled Node.flag
  let port ← Node.field fields "port" default.port (Node.natural (bound 16))
  let path ← Node.field fields "path" default.path Node.text
  return { enabled, port, path }

/-- The format of a name. -/
def LogFormat.ofName? (name : String) : Option LogFormat :=
  if name = LogFormat.pretty.name then some .pretty
  else if name = LogFormat.json.name then some .json
  else none

/-- Reads a section that gives how to log. -/
def LoggingConfig.ofNode (node : Node) : Reading LoggingConfig := do
  let default : LoggingConfig := {}
  let fields ← node.fields ["format", "directive"]
  let format ← Node.field fields "format" default.format fun n => do
    ((LogFormat.ofName? (← n.choice) : Option LogFormat) : Reading LogFormat)
  let directive ← Node.field fields "directive" default.directive Node.text
  return { format, directive }

/-- The names of the kinds, in the order of their numbers. -/
inductive KindName where
  | tcp
  | postgres
  | mongo
  | redis
  | http
deriving DecidableEq

/-- Reads which kind a dependency is of, by name or by number. -/
def KindName.ofValue? : Value → Option KindName
  | .text "tcp" | .natural 0 => some .tcp
  | .text "postgres" | .natural 1 => some .postgres
  | .text "mongo" | .natural 2 => some .mongo
  | .text "redis" | .natural 3 => some .redis
  | .text "http" | .natural 4 => some .http
  | _ => none

/-- The fields that a dependency of a kind has beside those that all have. -/
def KindName.fieldNames : KindName → List String
  | .tcp => ["address"]
  | .postgres => ["url"]
  | .mongo => ["uri"]
  | .redis => ["address", "password", "db"]
  | .http => ["url", "detailed"]

/-- Reads a value as a text. -/
def textOf? : Value → Option String
  | .text s => some s
  | _ => none

/-- Reads a value as a text that may be missing. -/
def optionalTextOf? : Value → Option (Option String)
  | .null => some none
  | v => (textOf? v).map some

/-- Reads a value as a count of 32 bits that may be missing. -/
def optionalCountOf? : Value → Option (Option Nat)
  | .null => some none
  | .natural n => if n < bound 32 then some (some n) else none
  | .signed n => if n = 0 then some (some 0) else none
  | _ => none

/-- Reads a value as a flag. -/
def flagOf? : Value → Option Bool
  | .flag b => some b
  | _ => none

/-- Reads the field of a name, which must be there. -/
def required? {α : Type} (fields : List (String × Content)) (name : String)
    (read : Value → Option α) : Option α :=
  match fields.lookup name with
  | some (.value v) => read v
  | _ => none

/-- Reads the field of a name, which is `default` if it is left out. -/
def optional? {α : Type} (fields : List (String × Content)) (name : String) (default : α)
    (read : Value → Option α) : Option α :=
  match fields.lookup name with
  | some (.value v) => read v
  | some .nested => none
  | none => some default

/-- Reads what a dependency of a kind needs, out of its fields. -/
def DependencyKind.ofFields? (fields : List (String × Content)) :
    KindName → Option DependencyKind
  | .tcp => do some (.tcp (← required? fields "address" textOf?))
  | .postgres => do some (.postgres (← required? fields "url" textOf?))
  | .mongo => do some (.mongo (← required? fields "uri" textOf?))
  | .redis => do
    some (.redis (← required? fields "address" textOf?)
      (← optional? fields "password" none optionalTextOf?)
      (← optional? fields "db" none optionalCountOf?))
  | .http => do
    some (.http (← required? fields "url" fun v => (textOf? v).bind Url.ofText?)
      (← optional? fields "detailed" false flagOf?))

/-- The fields that every dependency has. -/
def commonFieldNames : List String :=
  ["enabled", "connect_retries", "connect_retry_delay_secs"]

/-- How deep the values of a dependency may nest: it stands in the mapping of
the dependencies, which stands in the configuration. -/
def valueDepth : Node → Nat
  | .mapping marking _ => marking.maxDepth - 3
  | _ => 0

/-- Reads the fields that every dependency has. -/
def ConnectConfig.ofFields (fields : List (String × Node)) : Reading ConnectConfig := do
  let default : ConnectConfig := {}
  let enabled ← Node.field fields "enabled" default.enabled Node.flag
  let connectRetries ← Node.field fields "connect_retries" default.connectRetries
    (Node.natural (bound 32))
  let connectRetryDelaySecs ← Node.field fields "connect_retry_delay_secs"
    default.connectRetryDelaySecs (Node.natural (bound 64))
  return { enabled, connectRetries, connectRetryDelaySecs }

/-- Whether no field that a reader wants is named twice. -/
def namedOnce {α : Type} (wanted : List String) (fields : List (String × α)) : Bool :=
  ((fields.map (·.1)).filter wanted.contains).Nodup

/-- Reads the kind of a dependency and what it needs. -/
def DependencyKind.ofContents? (own : List (String × Content)) : Option DependencyKind := do
  let name ← required? own "kind" KindName.ofValue?
  guard (namedOnce ("kind" :: name.fieldNames) own)
  DependencyKind.ofFields? own name

/-- Reads a dependency. -/
def DependencyConfig.ofNode (node : Node) : Reading DependencyConfig := do
  let node ← node.follow
  let (common, own) := (← node.entries).partition fun e => commonFieldNames.contains e.1
  guard (namedOnce commonFieldNames common)
  let own ← own.mapM fun e => do return (e.1, ← e.2.content (valueDepth node))
  let connect ← ConnectConfig.ofFields common
  let kind ← ((DependencyKind.ofContents? own : Option _) : Reading DependencyKind)
  return { connect with kind }

/-- Reads the dependencies by their names.  Of two with one name the later one
stays, but both must be readable. -/
def dependenciesOfNode (node : Node) : Reading (NameMap DependencyConfig) := do
  let dependencies ← (← node.entries).mapM fun e => do
    return (e.1, ← DependencyConfig.ofNode e.2)
  return .ofList dependencies

/-- Reads a configuration. -/
def Config.ofNode (node : Node) : Reading Config := do
  let default : Config := {}
  let fields ← node.fields ["server", "health", "metrics", "logging", "dependencies"]
  let server ← Node.field fields "server" default.server ServerConfig.ofNode
  let health ← Node.field fields "health" default.health HealthConfig.ofNode
  let metrics ← Node.field fields "metrics" default.metrics MetricsConfig.ofNode
  let logging ← Node.field fields "logging" default.logging LoggingConfig.ofNode
  let dependencies ← Node.field fields "dependencies" default.dependencies
    dependenciesOfNode
  return { server, health, metrics, logging, dependencies }

/-- The configuration that a document holds. -/
def Config.ofDocument? (d : Document) : Option Config :=
  Reading.ofDocument? Config.ofNode d

end HealthWatch
