import HealthWatch.Service.Moves

/-!
# The moves of a service on a machine

On a machine the seconds of an instant are counted in 64 bits with a sign, attempts in 32 bits
without one, and no size is less than zero.  A sum or difference beyond that has no result, and
nothing can tick every zero seconds.

This file makes the moves of a service with the arithmetic of a machine.  `Service.act?` gives
none as soon as it needs a result that there is not.  Moves that do not calculate are those of
`Service.act`.
-/

namespace HealthWatch

/-! ## The arithmetic of a machine -/

/-- The clock of a machine. -/
structure Clock where
  /-- The milliseconds that it shows when the run begins. -/
  origin : Nat

namespace Clock

/-- The instant that comes so many milliseconds after another. -/
def later? (clock : Clock) (now : Instant) (span : Nat) : Option Instant :=
  if (clock.origin + now + span) / 1000 < Nat.pow 2 63 then some (now + span) else none

/-- The first tick of those that come every `period` milliseconds. -/
def tick? (clock : Clock) (now : Instant) (period : Nat) : Option Instant :=
  if period = 0 then none else clock.later? now period

end Clock

/-- The number of the attempt that follows. -/
def RetryPolicy.next? (attempt : Nat) : Option Nat :=
  if attempt + 1 < Nat.pow 2 32 then some (attempt + 1) else none

/-- How many dependencies failed, as what is left of all. -/
def Report.unhealthyCount? (r : Report) : Option Nat :=
  if r.healthyCount ≤ r.total then some (r.total - r.healthyCount) else none

/-! ## Probes -/

/-- Decides with the arithmetic of a machine whether an error is worth another attempt. -/
def Prober.decide? (clock : Clock) (p : Prober) (deadline now : Instant) :
    DependencyError → Option Decision
  | .deadlineExceeded _ | .closed => some .giveUp
  | _ => do
    let again ← clock.later? now p.retry.pause
    return if deadline ≤ again then .giveUp else .retry

namespace Probe

variable {δ Env : Type} [Dependency δ Env]

/-- A probe that begins on a machine. -/
def start? (clock : Clock) (p : Prober) (name : String) (handle : Nat)
    (deadline now : Instant) : Option Probe := do
  let ceiling ← clock.later? now p.ceiling
  return ⟨name, handle, now, min deadline ceiling, .due 1 now⟩

/-- What follows on a machine from a check. -/
def checked? (clock : Clock) (prober : Prober) (p : Probe) (attempt : Nat)
    (outcome : Except DependencyError Unit) (now : Instant) :
    Option (List Event × Progress) :=
  match outcome with
  | .ok () => some ([.probeSucceeded p.name (p.elapsed now)], .done (.healthy none none))
  | .error e => do
    let decision ← prober.decide? clock p.deadline now e
    let (told, next) := prober.retry.afterFailure attempt decision e.text
    match next with
    | .retry =>
      let following ← RetryPolicy.next? attempt
      return ([.retry told],
        .going { p with stage := .due following (now + prober.retry.rest) })
    | .giveUp =>
      return ([.retry told, .probeFailed p.name (p.elapsed now) e],
        .done (.unhealthy e.text none))

/-- Takes a probe one move further on a machine. -/
def resume? (clock : Clock) (prober : Prober) (p : Probe) (now : Instant) (h : Handle δ)
    (env : Env) : Option (Move δ Env) :=
  match p.stage with
  | .checking attempt _ outcome => do
    let (events, progress) ← p.checked? clock prober attempt outcome now
    return ⟨h.leave, env, events, progress⟩
  | _ => some (p.resume prober now h env)

end Probe

/-- Begins on a machine to probe all that the registry holds at `now`. -/
def Gathering.start? (clock : Clock) (prober : Prober) (registry : Registry)
    (deadline now : Instant) : Option Gathering := do
  let probes ← registry.all.mapM fun e => Probe.start? clock prober e.1 e.2 deadline now
  return ⟨probes.map .running⟩

namespace Service

variable {δ Env : Type} [Dependency δ Env]

/-- One move of a probe on a machine. -/
def moveProbe? (clock : Clock) (s : Service δ Env) (span : Option Span) (p : Probe) :
    Option (Service δ Env × Probe.Progress) :=
  match s.handles[p.handle]? with
  | none => some (s, .going p)
  | some h => do
    let m ← p.resume? clock s.prober s.now h s.env
    let s := { s with env := m.env, handles := s.handles.set p.handle m.handle }
    let s := s.tell span m.events
    match m.progress with
    | .going p => return (s, .going p)
    | .done finding =>
      return (s.record (·.recordProbe p.name finding (p.elapsed s.now)), .done finding)

/-- One move of one lane on a machine, if it is due. -/
def moveLane? (clock : Clock) (s : Service δ Env) (span : Option Span) (g : Gathering)
    (lane : Nat) : Option (Service δ Env × Gathering) :=
  match g.lanes[lane]? with
  | some (.running p) =>
    if p.wake ≤ s.now then do
      match ← s.moveProbe? clock span p with
      | (s, .going p) => return (s, ⟨g.lanes.set lane (.running p)⟩)
      | (s, .done finding) =>
        return (s, ⟨g.lanes.set lane (.finished p.name ⟨finding, s.now⟩)⟩)
    else some (s, g)
  | _ => some (s, g)

/-! ## Reports -/

/-- Completes a cycle on a machine. -/
def finishCycle? (s : Service δ Env) (span : Option Span) (r : Report) :
    Option (Service δ Env) := do
  let unhealthy ← r.unhealthyCount?
  let s := s.tell span (r.dependencies.entries.map (fun e => cycleLine e.1 e.2)
    ++ [.cycleComplete r.status r.healthyCount unhealthy])
  let s := { s with ticker := { s.ticker with cycles := s.ticker.cycles + 1 } }
  return s.record (·.recordCycle)

/-- What a report is made for is done with it on a machine. -/
def serveReport? (s : Service δ Env) (span : Option Span) (purpose : Purpose) (r : Report) :
    Option (Service δ Env) :=
  match purpose with
  | .cycle => s.finishCycle? span r
  | _ => some (s.serveReport span purpose r)

/-! ## The ticker's loop -/

/-- The first turn of a loop on a machine. -/
def startLoop? (clock : Clock) (s : Service δ Env) (id : Nat) : Option (Service δ Env) := do
  let first ← clock.tick? s.now s.ticker.interval
  let s := s.tell (some .ticker) [.tickerStarted (.ofMillis s.ticker.interval)]
  return if s.ticker.signalled then s.stopLoop id
    else s.setTask id (.running (some .ticker) (.ticking (.idle first)))

/-- A move on a machine of a loop other than of its lanes. -/
def moveLoop? (clock : Clock) (s : Service δ Env) (id : Nat) (l : Loop) :
    Option (Service δ Env) :=
  match l with
  | .starting => s.startLoop? clock id
  | .idle next =>
    if next ≤ s.now then do
      let following ← clock.later? s.now s.ticker.interval
      let deadline ← clock.later? s.now s.ticker.budget
      let g ← Gathering.start? clock s.prober s.registry deadline s.now
      return s.setTask id (.running (some .ticker) (.ticking (.cycling following g)))
    else some s
  | .cycling next g =>
    match g.results? with
    | none => some s
    | some results => do
      let (s, r) := s.finishReport (some .ticker) results
      let s ← s.finishCycle? (some .ticker) r
      return s.setTask id (.running (some .ticker) (.ticking (.idle next)))

/-! ## All moves of a task -/

/-- One move on a machine of a task that is under way. -/
def moveJob? (clock : Clock) (s : Service δ Env) (id : Nat) (span : Option Span) (job : Job)
    (part : Part) : Option (Service δ Env) :=
  match job, part with
  | .probing p, .whole =>
    if p.wake ≤ s.now then do
      match ← s.moveProbe? clock span p with
      | (s, .going p) => return s.setTask id (.running span (.probing p))
      | (s, .done finding) => return s.setTask id (.ended s.now (.probed ⟨finding, s.now⟩))
    else some s
  | .reporting purpose g, .lane n => do
    let (s, g) ← s.moveLane? clock span g n
    return s.setTask id (.running span (.reporting purpose g))
  | .reporting purpose g, .whole =>
    match g.results? with
    | none => some s
    | some results => do
      let (s, r) := s.finishReport span results
      let served ← s.serveReport? span purpose r
      return served.setTask id (.ended s.now (purpose.outcome r))
  | .ticking (.cycling next g), .lane n => do
    let (s, g) ← s.moveLane? clock span g n
    return s.setTask id (.running span (.ticking (.cycling next g)))
  | .ticking l, .whole => s.moveLoop? clock id l
  | _, _ => some (s.moveJob id span job part)

/-- One move of a task on a machine. -/
def move? (clock : Clock) (s : Service δ Env) (id : Nat) (part : Part) :
    Option (Service δ Env) :=
  match s.tasks[id]? with
  | some (.running span job) => s.moveJob? clock id span job part
  | _ => some s

/-! ## What is done from outside -/

/-- Begins a report on a machine. -/
def beginGathering? (clock : Clock) (s : Service δ Env) (span : Option Span)
    (purpose : Purpose) (deadline : Instant) : Option (Service δ Env) := do
  let g ← Gathering.start? clock s.prober s.registry deadline s.now
  return s.spawn span (.reporting purpose g)

/-- What an action does on a machine. -/
def act? (clock : Clock) (s : Service δ Env) : Action δ → Option (Service δ Env)
  | .beginProbe name deadline =>
    match s.registry.get? name with
    | some handle => do
      let p ← Probe.start? clock s.prober name handle deadline s.now
      return s.spawn none (.probing p)
    | none => some s
  | .beginReport deadline => s.beginGathering? clock none .report deadline
  | .beginCycle => do
    let deadline ← clock.later? s.now s.ticker.budget
    s.beginGathering? clock none .cycle deadline
  | .beginRequest => do
    let deadline ← clock.later? s.now s.prober.ceiling
    (s.tell (some .request) [.healthRequested]).beginGathering? clock (some .request) .request
      deadline
  | .move id part => s.move? clock id part
  | a => some (s.act a)

/-- A run of a service on a machine. -/
def run? (clock : Clock) (s : Service δ Env) (actions : List (Action δ)) :
    Option (Service δ Env) :=
  actions.foldlM (act? clock) s

end Service

end HealthWatch
