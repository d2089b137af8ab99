import HealthWatch.Service.State

/-!
# The moves of a service

Each function here is one move of one task, or one thing done to the service
from outside.  `Service.act` gathers them: a run of a service is a list of
actions, in any order and with any choice of the task that moves next, except
that time does not pass a moment at which a task has something to do.  An
action that is not possible changes nothing.
-/

namespace HealthWatch.Service

variable {δ Env : Type} [Dependency δ Env]

/-! ## Probes -/

/-- One move of a probe.  What it finds is recorded. -/
def moveProbe (s : Service δ Env) (span : Option Span) (p : Probe) :
    Service δ Env × Probe.Progress :=
  match s.handles[p.handle]? with
  | none => (s, .going p)
  | some h =>
    let m := p.resume s.prober s.now h s.env
    let s := { s with env := m.env, handles := s.handles.set p.handle m.handle }
    let s := s.tell span m.events
    match m.progress with
    | .going p => (s, .going p)
    | .done finding =>
      (s.record (·.recordProbe p.name finding (p.elapsed s.now)), .done finding)

/-- One move of one lane, if it is due. -/
def moveLane (s : Service δ Env) (span : Option Span) (g : Gathering) (lane : Nat) :
    Service δ Env × Gathering :=
  match g.lanes[lane]? with
  | some (.running p) =>
    if p.wake ≤ s.now then
      match s.moveProbe span p with
      | (s, .going p) => (s, ⟨g.lanes.set lane (.running p)⟩)
      | (s, .done finding) => (s, ⟨g.lanes.set lane (.finished p.name ⟨finding, s.now⟩)⟩)
    else (s, g)
  | _ => (s, g)

/-- The calls of a probe that is given up end. -/
def abandonProbe (s : Service δ Env) (p : Probe) : Service δ Env :=
  if p.isCalling then s.modifyHandle p.handle Handle.leave else s

/-- The calls of a report that is given up end. -/
def abandonLanes (s : Service δ Env) (g : Gathering) : Service δ Env :=
  g.lanes.foldl (fun s lane =>
    match lane with
    | .running p => s.abandonProbe p
    | .finished .. => s) s

/-! ## Reports -/

/-- The report of finished lanes, which is told and recorded. -/
def finishReport (s : Service δ Env) (span : Option Span)
    (results : List (String × ProbeResult)) : Service δ Env × Report :=
  let r : Report := ⟨.ofList results, s.uptime, s.now⟩
  let s := s.tell span [.reportBuilt r.status r.healthyCount r.total]
  (s.record (·.recordReport r), r)

/-- The line of a cycle on one dependency. -/
def cycleLine (name : String) (result : ProbeResult) : Event :=
  match result.finding with
  | .healthy _ latency => .cycleHealthy name latency
  | .unhealthy error _ => .cycleUnhealthy name error

/-- What a completed cycle tells: a line for each dependency, then the sum. -/
def cycleEvents (r : Report) : List Event :=
  r.dependencies.entries.map (fun e => cycleLine e.1 e.2)
    ++ [.cycleComplete r.status r.healthyCount r.unhealthyCount]

/-- Completes a cycle. -/
def finishCycle (s : Service δ Env) (span : Option Span) (r : Report) : Service δ Env :=
  let s := s.tell span (cycleEvents r)
  let s := { s with ticker := { s.ticker with cycles := s.ticker.cycles + 1 } }
  s.record (·.recordCycle)

/-- What a report is made for is done with it. -/
def serveReport (s : Service δ Env) (span : Option Span) (purpose : Purpose) (r : Report) :
    Service δ Env :=
  match purpose with
  | .report => s
  | .cycle => s.finishCycle span r
  | .request => s.tell span [.reportServed r.status]

/-! ## Closing -/

/-- One move of a closing: an answer comes, or the next handle is closed, or
there is none left. -/
def moveClosing (s : Service δ Env) (id : Nat) (c : Closing) : Service δ Env :=
  match c.current with
  | some (name, handle, call) =>
    match call.ends with
    | none => s
    | some ends =>
      if ends ≤ s.now then
        let s := s.modifyHandle handle Handle.leave
        match call.outcome with
        | .ok () =>
          (s.tell none [.dependencyClosed name]).setTask id
            (.running none (.closing { c with current := none }))
        | .error e =>
          (s.tell none [.closeFailed name e]).setTask id
            (.running none (.closing { c with current := none, failures := c.failures + 1 }))
      else s
  | none =>
    match c.remaining with
    | [] =>
      (s.tell none [.registryClosed s.registry.size c.failures]).setTask id (.ended s.now .closed)
    | (name, handle) :: rest =>
      match s.handles[handle]? with
      | none => s
      | some h =>
        let (reply, h, env) := h.close s.now s.env
        { s with env := env, handles := s.handles.set handle h }.setTask id
          (.running none (.closing
            { c with remaining := rest, current := some (name, handle, reply.unbounded s.now) }))

/-! ## The ticker's loop -/

/-- The loop ends. -/
def stopLoop (s : Service δ Env) (id : Nat) : Service δ Env :=
  let s := { s with ticker := { s.ticker with stopped := true } }
  (s.tell (some .ticker) [.tickerStopped]).setTask id (.ended s.now .stopped)

/-- The first turn of a loop. -/
def startLoop (s : Service δ Env) (id : Nat) : Service δ Env :=
  if s.ticker.interval = 0 then s.setTask id (.ended s.now .noInterval)
  else
    let s := s.tell (some .ticker) [.tickerStarted (.ofMillis s.ticker.interval)]
    if s.ticker.signalled then s.stopLoop id
    else s.setTask id (.running (some .ticker) (.ticking (.idle (s.now + s.ticker.interval))))

/-- A move of a loop other than of its lanes: its first turn, a tick, or the
end of a cycle.  A late tick puts off those after it. -/
def moveLoop (s : Service δ Env) (id : Nat) (l : Loop) : Service δ Env :=
  match l with
  | .starting => s.startLoop id
  | .idle next =>
    if next ≤ s.now then
      s.setTask id (.running (some .ticker) (.ticking (.cycling (s.now + s.ticker.interval)
        (.start s.prober s.registry (s.now + s.ticker.budget) s.now))))
    else s
  | .cycling next g =>
    match g.results? with
    | none => s
    | some results =>
      let (s, r) := s.finishReport (some .ticker) results
      (s.finishCycle (some .ticker) r).setTask id
        (.running (some .ticker) (.ticking (.idle next)))

/-- A loop that was told to stop notices it, and gives up what is under way. -/
def noticeSignal (s : Service δ Env) (id : Nat) (l : Loop) : Service δ Env :=
  if s.ticker.signalled then
    match l with
    | .starting => s
    | .idle _ => s.stopLoop id
    | .cycling _ g => (s.abandonLanes g).stopLoop id
  else s

/-! ## All moves of a task -/

/-- Which part of a task moves. -/
inductive Part where
  /-- One lane of its report. -/
  | lane (n : Nat)
  /-- The task itself. -/
  | whole
  /-- A loop notices that it is to stop. -/
  | signal
deriving DecidableEq

/-- One move of a task that is under way. -/
def moveJob (s : Service δ Env) (id : Nat) (span : Option Span) (job : Job) (part : Part) :
    Service δ Env :=
  match job, part with
  | .probing p, .whole =>
    if p.wake ≤ s.now then
      match s.moveProbe span p with
      | (s, .going p) => s.setTask id (.running span (.probing p))
      | (s, .done finding) => s.setTask id (.ended s.now (.probed ⟨finding, s.now⟩))
    else s
  | .reporting purpose g, .lane n =>
    let (s, g) := s.moveLane span g n
    s.setTask id (.running span (.reporting purpose g))
  | .reporting purpose g, .whole =>
    match g.results? with
    | none => s
    | some results =>
      let (s, r) := s.finishReport span results
      (s.serveReport span purpose r).setTask id (.ended s.now (purpose.outcome r))
  | .connecting handle call, .whole =>
    match call.ends with
    | none => s
    | some ends =>
      if ends ≤ s.now then
        (s.modifyHandle handle Handle.leave).setTask id (.ended s.now (.connected call.outcome))
      else s
  | .closing c, .whole => s.moveClosing id c
  | .ticking (.cycling next g), .lane n =>
    let (s, g) := s.moveLane span g n
    s.setTask id (.running span (.ticking (.cycling next g)))
  | .ticking l, .whole => s.moveLoop id l
  | .ticking l, .signal => s.noticeSignal id l
  | _, _ => s

/-- One move of a task. -/
def move (s : Service δ Env) (id : Nat) (part : Part) : Service δ Env :=
  match s.tasks[id]? with
  | some (.running span job) => s.moveJob id span job part
  | _ => s

/-- The calls of a task that is given up end. -/
def abandonJob (s : Service δ Env) (job : Job) : Service δ Env :=
  match job with
  | .probing p => s.abandonProbe p
  | .reporting _ g => s.abandonLanes g
  | .connecting handle _ => s.modifyHandle handle Handle.leave
  | .closing c =>
    match c.current with
    | some (_, handle, _) => s.modifyHandle handle Handle.leave
    | none => s
  | .ticking (.cycling _ g) => s.abandonLanes g
  | .ticking _ => s

/-- Gives up a task. -/
def drop (s : Service δ Env) (id : Nat) : Service δ Env :=
  match s.tasks[id]? with
  | some (.running _ job) => (s.abandonJob job).setTask id .dropped
  | _ => s

/-! ## What is done from outside -/

/-- Puts a handle under a name.  The handle it replaces is handed back. -/
def adopt (s : Service δ Env) (name : String) (handle : Handle δ) :
    Option Nat × Service δ Env :=
  let (old, registry) := s.registry.register name s.handles.length
  let s := { s with handles := s.handles ++ [handle], registry := registry }
  (old, s.tell none [if old.isSome then .replaced name else .registered name])

/-- Registers a dependency that has not been called. -/
def register (s : Service δ Env) (name : String) (dependency : δ) :
    Option Nat × Service δ Env :=
  s.adopt name (Handle.new dependency)

/-- Begins to probe one dependency. -/
def beginProbe (s : Service δ Env) (name : String) (deadline : Instant) : Service δ Env :=
  match s.registry.get? name with
  | some handle => s.spawn none (.probing (.start s.prober name handle deadline s.now))
  | none => s

/-- Begins a report. -/
def beginReport (s : Service δ Env) (deadline : Instant) : Service δ Env :=
  s.spawn none (.reporting .report (.start s.prober s.registry deadline s.now))

/-- Begins a cycle. -/
def beginCycle (s : Service δ Env) : Service δ Env :=
  s.spawn none
    (.reporting .cycle (.start s.prober s.registry (s.now + s.ticker.budget) s.now))

/-- Begins to answer a request for the health report. -/
def beginRequest (s : Service δ Env) : Service δ Env :=
  (s.tell (some .request) [.healthRequested]).spawn (some .request)
    (.reporting .request (.start s.prober s.registry (s.now + s.prober.ceiling) s.now))

/-- Begins to connect one dependency. -/
def beginConnect (s : Service δ Env) (name : String) : Service δ Env :=
  match s.registry.get? name with
  | none => s
  | some handle =>
    match s.handles[handle]? with
    | none => s
    | some h =>
      let (reply, h, env) := h.connect s.now s.env
      { s with env := env, handles := s.handles.set handle h }.spawn none
        (.connecting handle (reply.unbounded s.now))

/-- Begins to close all that the registry holds, in any order; only the first time has any
work to do. -/
def beginClosing (s : Service δ Env) (order : List (String × Nat)) : Service δ Env :=
  if s.registry.closed then { s with tasks := s.tasks ++ [.ended s.now .closed] }
  else if order.Perm s.registry.all then
    { s with registry := { s.registry with closed := true } }.spawn none
      (.closing ⟨order, none, 0⟩)
  else s

/-- Begins a loop of the ticker. -/
def beginTicker (s : Service δ Env) : Service δ Env := s.spawn (some .ticker) (.ticking .starting)

/-- Tells the ticker to stop. -/
def signal (s : Service δ Env) : Service δ Env :=
  { s with ticker := { s.ticker with signalled := true } }

/-! ## Time -/

/-- When a task has something to do again.  What waits for an answer that
never comes has nothing to do. -/
def jobWake (s : Service δ Env) : Job → Option Instant
  | .probing p => some p.wake
  | .reporting _ g => some (g.wake s.now)
  | .connecting _ call => call.ends
  | .closing c =>
    match c.current with
    | some (_, _, call) => call.ends
    | none => some s.now
  | .ticking l =>
    if s.ticker.signalled then some s.now
    else match l with
      | .starting => some s.now
      | .idle next => some next
      | .cycling _ g => some (g.wake s.now)

/-- When one of the tasks has something to do again. -/
def wake (s : Service δ Env) : Option Instant :=
  (s.tasks.filterMap fun task =>
    match task with
    | .running _ job => s.jobWake job
    | _ => none).min?

/-- Lets time pass until `time`, but not past a moment at which a task has
something to do. -/
def pass (s : Service δ Env) (time : Instant) : Service δ Env :=
  if s.now ≤ time ∧ ∀ w ∈ s.wake, time ≤ w then { s with now := time } else s

/-- What can happen to a service. -/
inductive Action (δ : Type) where
  | register (name : String) (dependency : δ)
  | beginProbe (name : String) (deadline : Instant)
  | beginReport (deadline : Instant)
  | beginCycle
  | beginRequest
  | beginConnect (name : String)
  | beginClosing (order : List (String × Nat))
  | beginTicker
  | signal
  | move (id : Nat) (part : Part)
  | drop (id : Nat)
  | pass (time : Instant)

/-- What an action does. -/
def act (s : Service δ Env) : Action δ → Service δ Env
  | .register name dependency => (s.register name dependency).2
  | .beginProbe name deadline => s.beginProbe name deadline
  | .beginReport deadline => s.beginReport deadline
  | .beginCycle => s.beginCycle
  | .beginRequest => s.beginRequest
  | .beginConnect name => s.beginConnect name
  | .beginClosing order => s.beginClosing order
  | .beginTicker => s.beginTicker
  | .signal => s.signal
  | .move id part => s.move id part
  | .drop id => s.drop id
  | .pass time => s.pass time

/-- A run of a service. -/
def run (s : Service δ Env) (actions : List (Action δ)) : Service δ Env :=
  actions.foldl act s

end HealthWatch.Service
