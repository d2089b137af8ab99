import HealthWatch.Decimal.Layout
import HealthWatch.DependencyError
import HealthWatch.Retry
import HealthWatch.Text.Quoted

/-!
# Events

An `Event` is something the service tells about itself, as a cause.  Its level,
its message, its fields and the part of the service that tells it are read off
the cause by one function each.
-/

namespace HealthWatch

/-- How much an event matters. -/
inductive Level where
  | error | warn | info | debug | trace
deriving DecidableEq

namespace Level

/-- The name of a level. -/
def text : Level → String
  | .error => "ERROR"
  | .warn => "WARN"
  | .info => "INFO"
  | .debug => "DEBUG"
  | .trace => "TRACE"

/-- How verbose a level is: 1 for errors up to 5 for traces. -/
def rank : Level → Nat
  | .error => 1
  | .warn => 2
  | .info => 3
  | .debug => 4
  | .trace => 5

end Level

/-- Something the service tells about itself. -/
inductive Event where
  /-- An attempt failed. -/
  | retry (event : RetryEvent)
  /-- A dependency without diagnostics answered. -/
  | probeSucceeded (name : String) (elapsed : Duration)
  /-- A dependency answered with diagnostics. -/
  | diagnosed (name uptime : String) (latency : Float) (elapsed : Duration)
  /-- Diagnostics failed. -/
  | diagnosticsFailed (name : String) (elapsed : Duration) (error : DependencyError)
  /-- A dependency without diagnostics failed. -/
  | probeFailed (name : String) (elapsed : Duration) (error : DependencyError)
  | reportBuilt (status : Status) (healthy total : Nat)
  | tickerStarted (interval : Duration)
  | tickerStopped
  /-- A line of a cycle on a dependency that answered. -/
  | cycleHealthy (name : String) (latency : Option Float)
  /-- A line of a cycle on a dependency that failed. -/
  | cycleUnhealthy (name error : String)
  | cycleComplete (status : Status) (healthy unhealthy : Nat)
  | healthRequested
  | reportServed (status : Status)
  | registered (name : String)
  | replaced (name : String)
  | dependencyClosed (name : String)
  | closeFailed (name : String) (error : DependencyError)
  | registryClosed (total failures : Nat)
  | settingUp
  | connected (name : String)
  | unreachable (name : String) (attempts : Nat) (error : DependencyError)
  | registryReady (up total : Nat) (names : List String)
  | configLoaded (path : String)
  | metricsListening (address path : String)
  | metricsServerFailed (reason : String)
  | healthStarting (address : String)
  | listening (address : String)
  | stoppedAccepting (address : String)
  | signalReceived
  | shutdownComplete

/-- The value of an event's field. -/
inductive FieldValue where
  /-- A text, which a line of text shows in quotes. -/
  | quoted (s : String)
  /-- A text that is shown as it is. -/
  | plain (s : String)
  | count (n : Nat)
  | real (x : Float)

/-- Doubles in the fields of events have a decimal from 1e-4 up to 1e16 and an
exponent elsewhere. -/
def fieldLayout : NumberLayout where
  tie := .up
  positional leading := decide (-4 ≤ leading) && decide (leading < 16)
  wholeMark := ".0"
  plusSign := ""
  notANumber := "NaN"
  infinity := "inf"
  negativeInfinity := "-inf"

/-- A latency that may be absent, in a field. -/
def optionalLatency : Option Float → String
  | none => "None"
  | some latency => "Some(" ++ fieldLayout.write latency ++ ")"

namespace RetryEvent

/-- How much the event matters. -/
def level : RetryEvent → Level
  | .exhausted .. => .warn
  | _ => .debug

/-- The message of the event. -/
def message : RetryEvent → String
  | .nonRetryable error => "Error is non-retryable: " ++ error
  | .exhausted attempts error => s!"Retry failed after {attempts} attempts: " ++ error
  | .retrying attempt error pause =>
    s!"Attempt {attempt} failed: " ++ error ++ ". Retrying in " ++ pause.text

end RetryEvent

namespace Event

/-- How much an event matters. -/
def level : Event → Level
  | .retry event => event.level
  | .diagnosticsFailed .. | .probeFailed .. | .cycleUnhealthy .. | .unreachable .. => .warn
  | .closeFailed .. | .metricsServerFailed _ => .error
  | .reportBuilt .. | .registered _ | .replaced _ => .debug
  | _ => .info

/-- The part of the service that tells an event. -/
def target : Event → String
  | .retry _ => "storefront_health::retry::strategy"
  | .probeSucceeded .. | .diagnosed .. | .diagnosticsFailed .. | .probeFailed .. =>
    "storefront_health::health::prober"
  | .reportBuilt .. => "storefront_health::health::aggregator"
  | .tickerStarted _ | .tickerStopped | .cycleHealthy .. | .cycleUnhealthy ..
  | .cycleComplete .. => "storefront_health::health::ticker"
  | .healthRequested | .reportServed _ => "storefront_health::server::handler"
  | .registered _ | .replaced _ | .dependencyClosed _ | .closeFailed ..
  | .registryClosed .. => "storefront_health::registry::dependencies"
  | .settingUp | .connected _ | .unreachable .. | .registryReady .. =>
    "storefront_health::registry::bootstrap"
  | .listening _ | .stoppedAccepting _ => "storefront_health::server::builder"
  | .configLoaded _ | .metricsListening .. | .metricsServerFailed _ | .healthStarting _
  | .signalReceived | .shutdownComplete => "storefront_health"

/-- The message of an event. -/
def message : Event → String
  | .retry event => event.message
  | .probeSucceeded .. | .diagnosed .. => "Dependency healthy"
  | .diagnosticsFailed .. => "Dependency diagnostics failed"
  | .probeFailed .. => "Dependency health check failed"
  | .reportBuilt .. => "Health report built"
  | .tickerStarted interval => "Starting health ticker with interval: " ++ interval.text
  | .tickerStopped => "Health ticker stopped"
  | .cycleHealthy name _ => name ++ " healthy"
  | .cycleUnhealthy name _ => name ++ " health check failed"
  | .cycleComplete _ healthy unhealthy =>
    s!"Health check complete: {healthy} healthy, {unhealthy} unhealthy"
  | .healthRequested => "Checking system health"
  | .reportServed _ => "Health report served"
  | .registered _ => "Registered dependency"
  | .replaced _ => "Replaced dependency handle"
  | .dependencyClosed _ => "Closed dependency"
  | .closeFailed .. => "Error closing dependency"
  | .registryClosed total failures =>
    s!"Registry closed: {total} dependencies, {failures} close errors"
  | .settingUp => "Setting up dependencies"
  | .connected _ => "Dependency connected"
  | .unreachable .. => "Dependency unreachable at startup, continuing degraded"
  | .registryReady up total _ => s!"Dependency registry ready: {up}/{total} connected"
  | .configLoaded path => "Loaded configuration from: " ++ path
  | .metricsListening address path => "Metrics server listening on http://" ++ address ++ path
  | .metricsServerFailed reason => "Metrics server error: " ++ reason
  | .healthStarting address => "Starting health service on " ++ address
  | .listening address => "HTTP server listening on " ++ address
  | .stoppedAccepting address => "HTTP server on " ++ address ++ " stopped accepting connections"
  | .signalReceived => "Shutdown signal received"
  | .shutdownComplete => "Shutdown complete"

/-- The field of the part of the service that looks after the registry. -/
def registryComponent : String × FieldValue := ("component", .quoted "registry")

/-- The fields of an event beside its message. -/
def fields : Event → List (String × FieldValue)
  | .probeSucceeded name elapsed =>
    [("dependency", .quoted name), ("elapsed_ms", .real elapsed.toMillis)]
  | .diagnosed name uptime latency elapsed =>
    [("dependency", .quoted name), ("uptime", .plain uptime), ("latency_ms", .real latency),
      ("elapsed_ms", .real elapsed.toMillis)]
  | .diagnosticsFailed name elapsed error =>
    [("dependency", .quoted name), ("latency_ms", .real elapsed.toMillis),
      ("error", .plain error.text)]
  | .probeFailed name elapsed error =>
    [("dependency", .quoted name), ("elapsed_ms", .real elapsed.toMillis),
      ("error", .plain error.text)]
  | .reportBuilt status healthy total =>
    [("status", .plain status.text), ("healthy", .count healthy), ("total", .count total)]
  | .cycleHealthy name latency =>
    [("dependency", .plain name), ("latency_ms", .plain (optionalLatency latency))]
  | .cycleUnhealthy name error => [("dependency", .plain name), ("error", .quoted error)]
  | .cycleComplete status _ _ => [("status", .plain status.text)]
  | .reportServed status => [("status", .plain status.text)]
  | .registered name | .replaced name | .dependencyClosed name =>
    [registryComponent, ("dependency", .plain name)]
  | .closeFailed name error =>
    [registryComponent, ("dependency", .plain name), ("error", .plain error.text)]
  | .registryClosed .. | .settingUp => [registryComponent]
  | .connected name => [registryComponent, ("dependency", .quoted name)]
  | .unreachable name attempts error =>
    [registryComponent, ("dependency", .quoted name), ("attempts", .count attempts),
      ("error", .plain error.text)]
  | .registryReady _ _ names =>
    [registryComponent, ("dependencies", .plain (Text.quotedList names))]
  | _ => []

end Event

end HealthWatch
