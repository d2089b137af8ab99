import HealthWatch.Duration
import HealthWatch.NameMap
import HealthWatch.Net.SocketAddress
import HealthWatch.Net.Url

/-!
# The configuration

What the service is told before it starts: where it listens, how often and how
patiently it probes, whether it shows its metrics, how it logs, and on which
dependencies the health of the whole stands.  Every section has a default, and
the default of the whole configuration is made of these.
-/

namespace HealthWatch

open HealthWatch.Net

/-- Where the service listens. -/
structure ServerConfig where
  listen : SocketAddress := .v4 ⟨0, 0, 0, 0⟩ 8080
deriving DecidableEq

/-- How the dependencies are probed. -/
structure HealthConfig where
  intervalSecs : Nat := 300
  probeCeilingSecs : Nat := 5
  retryAttempts : Nat := 3
  retryDelaySecs : Nat := 2
deriving DecidableEq

/-- Whether and where the metrics are shown. -/
structure MetricsConfig where
  enabled : Bool := false
  port : Nat := 9090
  path : String := "/metrics"
deriving DecidableEq

/-- The two ways to write a line of the log. -/
inductive LogFormat where
  | pretty
  | json
deriving DecidableEq

/-- The name of a format. -/
def LogFormat.name : LogFormat → String
  | .pretty => "pretty"
  | .json => "json"

/-- How and what the service logs. -/
structure LoggingConfig where
  format : LogFormat := .pretty
  directive : String := "storefront_health=info"
deriving DecidableEq

/-- What a dependency is, and what is needed to reach it. -/
inductive DependencyKind where
  /-- Anything that accepts a connection. -/
  | tcp (address : String)
  /-- A relational database. -/
  | postgres (url : String)
  /-- A document store, which tells its own uptime. -/
  | mongo (uri : String)
  /-- A key-value store, which tells its own uptime. -/
  | redis (address : String) (password : Option String) (db : Option Nat)
  /-- An endpoint that answers requests; if `detailed`, a probe measures how
  long the answer takes. -/
  | http (url : Url) (detailed : Bool)
deriving DecidableEq

/-- Whether a dependency is watched, and how its first connection is tried. -/
structure ConnectConfig where
  enabled : Bool := true
  connectRetries : Nat := 5
  connectRetryDelaySecs : Nat := 2
deriving DecidableEq

/-- A dependency of the service. -/
structure DependencyConfig extends ConnectConfig where
  kind : DependencyKind
deriving DecidableEq

/-- How often something is tried, and how long one waits between two tries. -/
structure Patience where
  maxAttempts : Nat
  delay : Duration
deriving DecidableEq

/-- The patience of a first connection: at least one attempt is made. -/
def ConnectConfig.connectRetry (d : ConnectConfig) : Patience :=
  ⟨max d.connectRetries 1, .ofSecs d.connectRetryDelaySecs⟩

/-- The patience of a probe. -/
def HealthConfig.retry (h : HealthConfig) : Patience :=
  ⟨h.retryAttempts, .ofSecs h.retryDelaySecs⟩

/-- The configuration of the service. -/
structure Config where
  server : ServerConfig := {}
  health : HealthConfig := {}
  metrics : MetricsConfig := {}
  logging : LoggingConfig := {}
  dependencies : NameMap DependencyConfig := .empty

/-- The dependencies that are to be watched. -/
def Config.enabledDependencies (c : Config) : NameMap DependencyConfig :=
  c.dependencies.filter fun _ d => d.enabled

end HealthWatch
