import HealthWatch.Metrics
import HealthWatch.Probe
import HealthWatch.Registry

/-!
# The state of a running service

A `Service` is a registry, the dependencies behind it, and the tasks that are
under way: probes, reports, connects, closings and ticker loops.  Tasks take
turns.  A task rests where it waits for an answer or for the clock, and the
time at which it has something to do again is read off its state.

Everything that the service tells goes to its log, with the time and with the
task's span.
-/

namespace HealthWatch

/-- The activity that an event is told from. -/
inductive Span where
  /-- A request to the health endpoint. -/
  | request
  /-- The ticker's loop. -/
  | ticker
deriving DecidableEq

/-- The name of a span. -/
def Span.text : Span → String
  | .request => "request"
  | .ticker => "health_ticker"

/-- An event with its time and span. -/
structure LogEntry where
  time : Instant
  span : Option Span
  event : Event

/-- One dependency of a report under way. -/
inductive Lane where
  | running (p : Probe)
  | finished (name : String) (result : ProbeResult)

namespace Lane

/-- The name of the dependency. -/
def name : Lane → String
  | .running p => p.name
  | .finished name _ => name

/-- When the lane has something to do again. -/
def wake : Lane → Option Instant
  | .running p => some p.wake
  | .finished .. => none

/-- The result, once there is one. -/
def result? : Lane → Option (String × ProbeResult)
  | .running _ => none
  | .finished name result => some (name, result)

end Lane

/-- A report under way: every registered dependency is probed at once. -/
structure Gathering where
  lanes : List Lane

namespace Gathering

/-- Begins to probe all that the registry holds at `now`. -/
def start (prober : Prober) (registry : Registry) (deadline now : Instant) : Gathering :=
  ⟨registry.all.map fun e => .running (.start prober e.1 e.2 deadline now)⟩

/-- The results, once every lane has one. -/
def results? (g : Gathering) : Option (List (String × ProbeResult)) := g.lanes.mapM Lane.result?

/-- When the report has something to do again; a report whose lanes have all
finished is due at once. -/
def wake (g : Gathering) (now : Instant) : Instant :=
  ((g.lanes.filterMap Lane.wake).min?).getD now

end Gathering

/-- What a report is made for. -/
inductive Purpose where
  /-- For its own sake. -/
  | report
  /-- As a cycle of the ticker. -/
  | cycle
  /-- As the answer to a request. -/
  | request
deriving DecidableEq

/-- A closing of the registry under way: one handle after another. -/
structure Closing where
  remaining : List (String × Nat)
  current : Option (String × Nat × Call Unit)
  failures : Nat

/-- A ticker's loop. -/
inductive Loop where
  /-- It has not had its first turn. -/
  | starting
  /-- It waits for the tick at `next`. -/
  | idle (next : Instant)
  /-- A cycle is under way; the tick after it is at `next`. -/
  | cycling (next : Instant) (g : Gathering)

/-- What a task does. -/
inductive Job where
  | probing (p : Probe)
  | reporting (purpose : Purpose) (g : Gathering)
  | connecting (handle : Nat) (call : Call Unit)
  | closing (c : Closing)
  | ticking (l : Loop)

/-- What a task ended with. -/
inductive Outcome where
  | probed (r : ProbeResult)
  | reported (r : Report)
  /-- A report that answers a request. -/
  | served (r : Report)
  | connected (outcome : Except DependencyError Unit)
  | closed
  /-- A ticker's loop was stopped. -/
  | stopped
  /-- A ticker's loop cannot run with an interval of zero. -/
  | noInterval

/-- What a report ends as. -/
def Purpose.outcome (p : Purpose) (r : Report) : Outcome :=
  match p with
  | .report | .cycle => .reported r
  | .request => .served r

/-- A task: under way, ended, or given up. -/
inductive Task where
  | running (span : Option Span) (job : Job)
  | ended (time : Instant) (outcome : Outcome)
  | dropped

/-- The periodic checks. -/
structure Ticker where
  /-- Milliseconds between two ticks. -/
  interval : Nat
  /-- Whether it was told to stop. -/
  signalled : Bool
  /-- Whether a loop has stopped. -/
  stopped : Bool
  /-- Completed cycles. -/
  cycles : Nat

namespace Ticker

/-- The most a cycle may take: half an interval, rounded up to the clock's
millisecond. -/
def budget (t : Ticker) : Nat := (t.interval + 1) / 2

end Ticker

/-- A running service. -/
structure Service (δ Env : Type) where
  now : Instant
  env : Env
  handles : List (Handle δ)
  registry : Registry
  prober : Prober
  /-- How long the process had been up when the run began, in milliseconds. -/
  upBefore : Nat
  /-- Absent if nothing is recorded. -/
  metrics : Option Metrics
  ticker : Ticker
  tasks : List Task
  /-- The latest entry comes first. -/
  log : List LogEntry

namespace Service

variable {δ Env : Type}

/-- A service that has just begun. -/
def new (env : Env) (prober : Prober) (interval upBefore : Nat) (metrics : Option Metrics) :
    Service δ Env where
  now := 0
  env := env
  handles := []
  registry := .empty
  prober := prober
  upBefore := upBefore
  metrics := metrics
  ticker := ⟨interval, false, false, 0⟩
  tasks := []
  log := []

/-- How long the process has been up. -/
def uptime (s : Service δ Env) : Duration := .ofMillis (s.upBefore + s.now)

/-- Tells events. -/
def tell (s : Service δ Env) (span : Option Span) (events : List Event) : Service δ Env :=
  { s with log := (events.map fun e => ⟨s.now, span, e⟩).reverse ++ s.log }

/-- Changes the metrics, if there are any. -/
def record (s : Service δ Env) (change : Metrics → Metrics) : Service δ Env :=
  { s with metrics := s.metrics.map change }

/-- Changes one handle. -/
def modifyHandle (s : Service δ Env) (handle : Nat) (change : Handle δ → Handle δ) :
    Service δ Env :=
  { s with handles := s.handles.modify handle change }

/-- Replaces a task. -/
def setTask (s : Service δ Env) (id : Nat) (task : Task) : Service δ Env :=
  { s with tasks := s.tasks.set id task }

/-- Adds a task; its number is how many there were. -/
def spawn (s : Service δ Env) (span : Option Span) (job : Job) : Service δ Env :=
  { s with tasks := s.tasks ++ [.running span job] }

end Service

end HealthWatch
