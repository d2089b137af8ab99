import HealthWatch.Config
import HealthWatch.Service.Moves

/-!
# Connecting the dependencies at startup

Every enabled dependency is set up, and if one of them cannot be, nothing is
connected.  Otherwise all are connected at once.  Each has a number of attempts
with a pause between them; one that never answers is registered all the same, so
that it shows up as unhealthy.

`Startup` is a startup under way.  `Startup.step` takes it to the next moment at
which one of its lanes has something to do, and `Startup.run` as far as it goes.
-/

namespace HealthWatch

/-- What is being done about one dependency. -/
inductive Startup.Stage where
  /-- Attempt `attempt` is to begin at `time`. -/
  | due (attempt : Nat) (time : Instant)
  /-- Attempt `attempt` was begun. -/
  | calling (attempt : Nat) (call : Call Unit)
  /-- No more attempts are made. -/
  | settled (connected : Bool)

/-- One dependency that is being connected. -/
structure Startup.Lane (δ : Type) where
  name : String
  handle : Handle δ
  policy : RetryPolicy
  stage : Startup.Stage

/-- A startup under way. -/
structure Startup (δ Env : Type) where
  now : Instant
  env : Env
  lanes : List (Startup.Lane δ)
  /-- The latest entry comes first. -/
  log : List LogEntry

/-- A dependency that could not be set up. -/
structure SetupError (ε : Type) where
  name : String
  cause : ε

/-- The name of a dependency that could not be set up, as it is told. -/
def SetupError.headline {ε : Type} (e : SetupError ε) : String :=
  s!"Failed to set up dependency '{e.name}'"

/-- The policy of a patience. -/
def Patience.policy (p : Patience) : RetryPolicy :=
  .of p.maxAttempts (p.delay.nanos / Duration.nanosPerMilli)

namespace Startup

variable {δ Env ε : Type} [Dependency δ Env]

/-- The lane of a dependency whose first attempt is due. -/
def laneOf (now : Instant) (name : String) (dependency : δ) (c : DependencyConfig) : Lane δ :=
  ⟨name, Handle.new dependency, c.connectRetry.policy, .due 1 now⟩

/-- Sets up dependencies one after another, up to the first that cannot be. -/
def setUp (build : DependencyKind → Except ε δ) (now : Instant) :
    List (String × DependencyConfig) → Except (SetupError ε) (List (Lane δ))
  | [] => .ok []
  | (name, c) :: rest =>
    match build c.kind with
    | .error cause => .error ⟨name, cause⟩
    | .ok dependency =>
      match setUp build now rest with
      | .error e => .error e
      | .ok more => .ok (laneOf now name dependency c :: more)

/-- When a lane has something to do again. -/
def Lane.wake (l : Lane δ) : Option Instant :=
  match l.stage with
  | .due _ time => some time
  | .calling _ call => call.ends
  | .settled _ => none

/-- How many moves a lane can still make: every attempt takes two. -/
def Lane.movesLeft (l : Lane δ) : Nat :=
  match l.stage with
  | .due attempt _ => 2 * (l.policy.maxAttempts - attempt) + 2
  | .calling attempt _ => 2 * (l.policy.maxAttempts - attempt) + 1
  | .settled _ => 0

/-- What follows from an attempt. -/
def Lane.answered (l : Lane δ) (attempt : Nat) (outcome : Except DependencyError Unit)
    (now : Instant) : List Event × Stage :=
  match outcome with
  | .ok () => ([.connected l.name], .settled true)
  | .error e =>
    let (told, next) := l.policy.afterFailure attempt .retry e.text
    match next with
    | .retry => ([.retry told], .due (attempt + 1) (now + l.policy.rest))
    | .giveUp =>
      ([.retry told, .unreachable l.name l.policy.maxAttempts e], .settled false)

/-- One move of a lane: an attempt begins, or its answer comes. -/
def Lane.move (l : Lane δ) (now : Instant) (env : Env) : Lane δ × Env × List Event :=
  match l.stage with
  | .due attempt _ =>
    let (reply, h, env) := l.handle.connect now env
    ({ l with handle := h, stage := .calling attempt (reply.unbounded now) }, env, [])
  | .calling attempt call =>
    let (events, stage) := l.answered attempt call.outcome now
    ({ l with handle := l.handle.leave, stage := stage }, env, events)
  | .settled _ => (l, env, [])

/-- The first lane that has something to do, and when. -/
def next (s : Startup δ Env) : Option (Instant × Nat) :=
  match (s.lanes.filterMap Lane.wake).min? with
  | none => none
  | some time => (s.lanes.findIdx? fun l => l.wake == some time).map fun i => (time, i)

/-- Goes on to the next moment at which a lane has something to do, and moves
that lane. -/
def step (s : Startup δ Env) : Startup δ Env :=
  match s.next with
  | none => s
  | some (time, i) =>
    match s.lanes[i]? with
    | none => s
    | some lane =>
      let now := max s.now time
      let (lane, env, events) := lane.move now s.env
      { now := now
        env := env
        lanes := s.lanes.set i lane
        log := (events.map fun e => ⟨now, none, e⟩).reverse ++ s.log }

/-- Goes on until no lane has anything to do, but at most `fuel` steps. -/
def runFor : (fuel : Nat) → Startup δ Env → Startup δ Env
  | 0, s => s
  | fuel + 1, s => if s.next.isNone then s else runFor fuel s.step

/-- How many moves all lanes together can still make. -/
def movesLeft (s : Startup δ Env) : Nat := s.lanes.foldr (fun l n => l.movesLeft + n) 0

/-- Goes on until no lane has anything to do. -/
def run (s : Startup δ Env) : Startup δ Env := runFor s.movesLeft s

/-- Whether a lane is settled. -/
def Lane.isSettled (l : Lane δ) : Bool :=
  match l.stage with
  | .settled _ => true
  | _ => false

/-- Whether a lane is connected. -/
def Lane.isConnected (l : Lane δ) : Bool :=
  match l.stage with
  | .settled connected => connected
  | _ => false

/-- Registers what was connected, or given up, and tells how many were. -/
def register (s : Startup δ Env) (service : Service δ Env) : Service δ Env :=
  let service := { service with now := s.now, env := s.env, log := s.log }
  let service := s.lanes.foldl (fun v l => (v.adopt l.name l.handle).2) service
  service.tell none
    [.registryReady (s.lanes.countP Lane.isConnected) service.registry.size
      service.registry.names]

/-- How a startup ends. -/
inductive Outcome (δ Env ε : Type) where
  /-- A dependency could not be set up; nothing was connected. -/
  | failed (e : SetupError ε)
  /-- An attempt was never answered. -/
  | hanging
  | ready (service : Service δ Env)

/-- Connects the enabled dependencies of a configuration for a service that has
none.  Gives what was told, the latest first, and how the startup ends. -/
def connect (build : DependencyKind → Except ε δ) (config : Config)
    (service : Service δ Env) : List LogEntry × Outcome δ Env ε :=
  let begun := service.tell none [.settingUp]
  match setUp build begun.now config.enabledDependencies.entries with
  | .error e => (begun.log, .failed e)
  | .ok lanes =>
    let s : Startup δ Env := ⟨begun.now, begun.env, lanes, begun.log⟩
    let s := s.run
    if s.lanes.all Lane.isSettled then
      let service := s.register begun
      (service.log, .ready service)
    else (s.log, .hanging)

end Startup

/-- How dependencies are probed by a configuration. -/
def HealthConfig.prober (h : HealthConfig) : Prober :=
  ⟨h.probeCeilingSecs * 1000, h.retry.policy⟩

end HealthWatch
