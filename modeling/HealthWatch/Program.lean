import HealthWatch.Config.Loading
import HealthWatch.Http.Server
import HealthWatch.Logging.Line
import HealthWatch.Session
import HealthWatch.Startup

/-!
# The program

The program loads its configuration, says from then on what it does, connects
its dependencies, starts the ticker and its servers, and serves until it is told
to stop; then it stops the ticker and closes the dependencies.  A failure before
the dependencies are connected ends it at once.  If the health endpoint cannot
be served, the program stops as if it had been told to, but fails.  If the
metrics cannot be served, the program goes on without.
-/

namespace HealthWatch

open HealthWatch.Http HealthWatch.Net

/-- What the program finds around it. -/
structure Surroundings (δ Env ε : Type) where
  /-- What a file holds, if it is there. -/
  file : String → Option ByteArray
  /-- The setting of the log that comes before that of the configuration. -/
  logSetting : Option String
  ports : Ports
  env : Env
  /-- Makes a dependency of a configured one. -/
  build : DependencyKind → Except ε δ

/-- Why the program fails. -/
inductive Failure where
  | config (e : ConfigError)
  | filter (e : FilterError)
  /-- A dependency could not be set up. -/
  | setup
  | server (e : ServerError)
deriving DecidableEq

/-- What is told of a failure. -/
def Failure.headline : Failure → String
  | .config e => e.headline
  | .filter e => e.message
  | .setup => "Dependency registry initialization failed"
  | .server e => e.message

/-- The program while it serves. -/
structure Serving (δ Env : Type) where
  session : Session δ Env
  /-- Where the health endpoint is. -/
  address : SocketAddress
  /-- Why the health endpoint is not served, if it is not. -/
  failure : Option ServerError

/-- How far the program has come. -/
inductive Program.Stage (δ Env : Type) where
  | failed (e : Failure)
  /-- A dependency never answers its first connection. -/
  | connecting
  | serving (s : Serving δ Env)

/-- The program after its start. -/
structure Program (δ Env : Type) where
  /-- Absent as long as nothing is shown. -/
  subscriber : Option Subscriber
  /-- What was told; the latest entry comes first. -/
  log : List LogEntry
  stage : Program.Stage δ Env

/-- The program after its end. -/
structure Ended (Env : Type) where
  subscriber : Option Subscriber
  /-- What was told; the latest entry comes first. -/
  log : List LogEntry
  failure : Option Failure
  env : Env

namespace Program

variable {δ Env ε : Type} [Dependency δ Env]

/-- The file of the configuration if none is named. -/
def configPath : String := "config.yaml"

/-- The service of a configuration, before its dependencies are connected. -/
def serviceOf (config : Config) (env : Env) : Service δ Env :=
  .new env config.health.prober (config.health.intervalSecs * 1000) 0 (some .empty)

/-- A session of a service of which nothing is asked but what the program
does. -/
def sessionOf (config : Config) (stamp : Instant → String) (service : Service δ Env) :
    Session δ Env :=
  ⟨service, [], config.metrics.path, [], none, stamp⟩

/-- The address of the metrics. -/
def metricsAddress (config : Config) : SocketAddress := .v4 ⟨0, 0, 0, 0⟩ config.metrics.port

/-- Tells events. -/
def tell (s : Session δ Env) (events : List Event) : Session δ Env :=
  s.within (·.tell none events)

/-- Starts the server of the health endpoint. -/
def startHealth (config : Config) (ports : Ports) (s : Session δ Env) :
    Session δ Env × Except ServerError Ports :=
  let s := tell s [.healthStarting config.server.listen.text]
  match Server.start ⟨config.server.listen, some .health⟩ ports with
  | .error e => (s, .error e)
  | .ok ports => (tell s [.listening config.server.listen.text], .ok ports)

/-- Starts the server of the metrics, which must not fail the program. -/
def startMetrics (config : Config) (ports : Ports) (s : Session δ Env) : Session δ Env :=
  if config.metrics.enabled then
    match Server.start ⟨metricsAddress config, some (.metrics config.metrics.path)⟩ ports with
    | .error e => tell s [.metricsServerFailed e.details]
    | .ok _ => tell s [.listening (metricsAddress config).text]
  else s

/-- Starts the ticker and the servers.  The server of the metrics is announced
first, but it takes its port when the other one has. -/
def serve (config : Config) (ports : Ports) (s : Session δ Env) : Serving δ Env :=
  let (s, _) := s.step .startTicker
  let s :=
    if config.metrics.enabled then
      tell s [.metricsListening (metricsAddress config).text config.metrics.path]
    else s
  match startHealth config ports s with
  | (s, .error e) => ⟨startMetrics config ports s, config.server.listen, some e⟩
  | (s, .ok ports) => ⟨startMetrics config ports s, config.server.listen, none⟩

/-- Starts the program with its arguments, of which the first names the
configuration; `stamp` writes instants. -/
def start (around : Surroundings δ Env ε) (stamp : Instant → String) (arguments : List String) :
    Program δ Env :=
  let path := arguments.headD configPath
  match Config.load path (around.file path) with
  | .error e => ⟨none, [], .failed (.config e)⟩
  | .ok config =>
    match Subscriber.ofConfig around.logSetting config.logging with
    | .error e => ⟨none, [], .failed (.filter e)⟩
    | .ok subscriber =>
      let service := (serviceOf config around.env).tell none [.configLoaded path]
      match Startup.connect around.build config service with
      | (log, .failed _) => ⟨some subscriber, log, .failed .setup⟩
      | (log, .hanging) => ⟨some subscriber, log, .connecting⟩
      | (_, .ready service) =>
        let serving := serve config around.ports (sessionOf config stamp service)
        ⟨some subscriber, serving.session.service.log, .serving serving⟩

/-- Stops the ticker and closes the dependencies. -/
def wind (s : Session δ Env) : Session δ Env :=
  let (s, _) := s.step .signalTicker
  let (s, _) := s.step .joinTicker
  let (s, _) := s.step .closeAll
  tell s [.shutdownComplete]

/-- Ends a program that serves.  A server that serves notices first that it is
to stop. -/
def finish (s : Serving δ Env) : Session δ Env :=
  match s.failure with
  | some _ => wind s.session
  | none => wind (tell s.session [.signalReceived, .stoppedAccepting s.address.text])

/-- The lines of a log that is kept latest first, as far as they are shown. -/
def linesOf (subscriber : Option Subscriber) (stamp : Instant → String)
    (log : List LogEntry) : List Line :=
  match subscriber with
  | none => []
  | some s => log.reverse.filterMap (s.line? stamp)

/-- The lines of the start, the first first. -/
def lines (p : Program δ Env) (stamp : Instant → String) : List Line :=
  linesOf p.subscriber stamp p.log

/-- Whether the program waits to be told to stop. -/
def isWaiting (p : Program δ Env) : Bool :=
  match p.stage with
  | .failed _ => false
  | .connecting => true
  | .serving s => s.failure.isNone

/-- Ends the program; `env` is what its dependencies share if none was
connected. -/
def stop (p : Program δ Env) (env : Env) : Ended Env :=
  match p.stage with
  | .failed e => ⟨p.subscriber, p.log, some e, env⟩
  | .connecting => ⟨p.subscriber, p.log, none, env⟩
  | .serving s =>
    let session := finish s
    ⟨p.subscriber, session.service.log, s.failure.map .server, session.service.env⟩

/-- A whole run of the program that is told to stop as soon as it serves. -/
def run (around : Surroundings δ Env ε) (stamp : Instant → String) (arguments : List String) :
    Ended Env :=
  (start around stamp arguments).stop around.env

end Program

namespace Ended

variable {Env : Type}

/-- The code that the program ends with. -/
def exitCode (e : Ended Env) : Nat := if e.failure.isSome then 1 else 0

/-- The line about the failure, if there is one. -/
def errorLine? (e : Ended Env) : Option String := e.failure.map fun f => "Error: " ++ f.headline

/-- The lines of the log, the first first. -/
def lines (e : Ended Env) (stamp : Instant → String) : List Line :=
  Program.linesOf e.subscriber stamp e.log

end Ended

end HealthWatch
