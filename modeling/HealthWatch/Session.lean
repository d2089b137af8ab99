import HealthWatch.Http.Body
import HealthWatch.Http.Handler
import HealthWatch.Service.Schedule

/-!
# Sessions

A session uses a service step by step: it registers dependencies, asks for
probes, reports and cycles, sends requests, runs the ticker and lets time pass.
A step that has to wait lets the ticker's loops take their turns, and time
jumps to the next moment at which something is to be done.  Steps that run
together take their turns in the order in which they were listed.
-/

namespace HealthWatch

/-- What is done in a session. -/
inductive Step (δ : Type) where
  /-- Lets time pass. -/
  | advance (millis : Nat)
  | register (name : String) (dependency : δ)
  | get (name : String)
  | all
  | registry
  | closeAll
  | tallies
  | connect (name : String)
  /-- Probes with a deadline so many milliseconds from now. -/
  | probe (name : String) (deadline : Nat)
  | report (deadline : Nat)
  | cycle
  | health (request : Http.Request)
  | metrics (request : Http.Request)
  /-- Sends a text over a connection to one of the endpoints. -/
  | wire (metrics : Bool) (text : String)
  | startTicker
  | signalTicker
  | tickerState
  | joinTicker
  | together (steps : List (Step δ))

/-- An answer as it stands on a connection. -/
structure WireReply where
  status : String
  /-- Lines of a name and a value, in order. -/
  headers : List String
  body : String

/-- What a step answers. -/
inductive Answer where
  | nothing
  | handle (h : Option Nat)
  | entries (l : List (String × Nat))
  | registry (r : Registry)
  | tallies (l : List (String × Tally))
  | connected (outcome : Except DependencyError Unit)
  | probe (time : Instant) (r : ProbeResult)
  | report (time : Instant) (r : Report)
  | response (r : Http.Response)
  | connection (replies : List WireReply) (clean : Bool)
  | ticker (stopped : Bool) (cycles : Nat)
  /-- The ticker's loop could not run. -/
  | noInterval
  | all (l : List Answer)

/-- A connection on which requests are served in turn. -/
structure Connection where
  metrics : Bool
  /-- The bytes that have not been read. -/
  rest : List Char
  /-- The version of the last request. -/
  version : Http.Version
  /-- The request under way and its task. -/
  current : Option (Http.RequestHead × Nat)
  replies : List WireReply
  /-- When the client leaves. -/
  hangUp : Instant

/-- A step that has begun. -/
inductive Pending where
  | done (a : Answer)
  | sleeping (time : Instant)
  | task (id : Nat)
  /-- Waits for a loop of the ticker to end. -/
  | joining (id : Nat)
  | serving (c : Connection)
  | together (l : List Pending)

/-- A service in use. -/
structure Session (δ Env : Type) where
  service : Service δ Env
  /-- The name that each handle was registered under. -/
  names : List String
  /-- Where the metrics are served. -/
  metricsPath : String
  /-- The loops of the ticker. -/
  loops : List Nat
  /-- The loop that can still be waited for. -/
  joinable : Option Nat
  /-- How instants are written in the bodies of answers. -/
  stamp : Instant → String

namespace Session

variable {δ Env : Type} [Dependency δ Env]

/-- The metrics as they are served. -/
def metrics (s : Session δ Env) : Metrics := s.service.metrics.getD .empty

/-- Changes the service of a session. -/
def within (s : Session δ Env) (f : Service δ Env → Service δ Env) : Session δ Env :=
  { s with service := f s.service }

/-- The state of the ticker. -/
def tickerAnswer (s : Session δ Env) : Answer :=
  .ticker s.service.ticker.stopped s.service.ticker.cycles

/-- What a task that has ended answers. -/
def outcomeAnswer (s : Session δ Env) (time : Instant) : Outcome → Answer
  | .probed r => .probe time r
  | .reported r => .report time r
  | .served r => .response (Http.healthResponse s.stamp r)
  | .connected outcome => .connected outcome
  | .closed => .nothing
  | .stopped => s.tickerAnswer
  | .noInterval => .noInterval

/-! ## Connections -/

/-- How long a client waits for the server to close the connection. -/
def patience : Nat := 60000

/-- Whether an answer turns the connection into a tunnel, through which nothing is
sent here. -/
def opensTunnel (method : String) (r : Http.Response) : Bool :=
  method = "CONNECT" && 200 ≤ r.status && r.status < 300

/-- An answer as it is sent.  An answer to `HEAD` and one that opens a tunnel have
no body, and a connection of the older protocol that stays open says so. -/
def sent (version : Http.Version) (method : String) (keepAlive : Bool) (r : Http.Response) :
    WireReply :=
  let extra := if version = .http10 && keepAlive then [("connection", "keep-alive")] else []
  { status := version.text ++ s!" {r.status} " ++ Http.Response.phrase r.status
    headers := ((r.headers ++ extra).map fun h => h.1 ++ ": " ++ h.2).mergeSort
    body := if method = "HEAD" || opensTunnel method r then "" else r.body }

/-- The answer to bytes that are no request. -/
def refusal (c : Connection) (status : Nat) : Pending :=
  let reply := sent c.version "" false ⟨status, [], ""⟩
  .done (.connection (c.replies ++ [reply]) false)

/-- How many pieces of a body are read.  One is read when the answer is sent, and
one as soon as it is there, unless the request has been let go of by then or the
client waits for a sign. -/
def bodyPieces (c : Connection) (head : Http.RequestHead) : Nat :=
  if c.metrics || head.awaitsSign then 1 else 2

/-- Sends the answer to a request; either the connection ends, or it goes on
after the body of the request. -/
def reply (c : Connection) (head : Http.RequestHead) (r : Http.Response) :
    Except (List WireReply) Connection :=
  let replies := c.replies ++ [sent head.version head.method head.keepAlive r]
  match head.framing.body.skip? (bodyPieces c head) c.rest with
  | some rest =>
    if head.keepAlive && !opensTunnel head.method r then
      .ok { c with rest := rest, current := none, replies := replies }
    else .error replies
  | none => .error replies

/-- Goes on after an answer, unless the connection ends with it. -/
def answered (s : Session δ Env) (c : Connection) (head : Http.RequestHead)
    (r : Http.Response) : Session δ Env × Except Pending Connection :=
  (s, (reply c head r).mapError fun replies => .done (.connection replies true))

/-- Goes on with a request for a report, until the report is there or the client
leaves. -/
def awaitReport (s : Session δ Env) (c : Connection) (head : Http.RequestHead) (id : Nat) :
    Session δ Env × Except Pending Connection :=
  let s := s.within (·.turn id)
  match s.service.outcome? id with
  | some (_, .served r) => s.answered c head (Http.healthResponse s.stamp r)
  | _ =>
    if c.hangUp ≤ s.service.now then
      (s.within (·.drop id), .error (.done (.connection c.replies false)))
    else (s, .error (.serving c))

/-- What is done about a request. -/
def routing (s : Session δ Env) (c : Connection) (request : Http.Request) : Http.Routing :=
  if c.metrics then .respond (Http.metricsResponse s.metricsPath s.metrics request)
  else Http.routeHealth request

/-- Begins with a request that has been read. -/
def beginServing (s : Session δ Env) (c : Connection) (head : Http.RequestHead) :
    Session δ Env × Except Pending Connection :=
  match s.routing c ⟨head.method, head.path⟩ with
  | .respond r => s.answered c head r
  | .report =>
    (s.within (·.beginRequest), .ok { c with current := some (head, s.service.tasks.length) })

/-- Reads the next request, unless the client leaves or its bytes are no
request. -/
def readRequest (s : Session δ Env) (c : Connection) : Session δ Env × Except Pending Connection :=
  match Http.RequestHead.read c.rest with
  | .error .incomplete =>
    if c.hangUp ≤ s.service.now then
      (s, .error (.done (.connection c.replies (c.rest.all Http.isLineEnd))))
    else (s, .error (.serving c))
  | .error .malformed => (s, .error (refusal c 400))
  | .error .tooLarge => (s, .error (refusal c 431))
  | .error .targetTooLong => (s, .error (refusal c 414))
  | .ok (head, rest) => s.beginServing { c with rest := rest, version := head.version } head

/-- One step of a connection: either it goes on, or it waits or has ended. -/
def proceed (s : Session δ Env) (c : Connection) : Session δ Env × Except Pending Connection :=
  match c.current with
  | some (head, id) => s.awaitReport c head id
  | none => s.readRequest c

/-- Serves a connection as far as it goes without waiting. -/
def serve : (fuel : Nat) → Session δ Env → Connection → Session δ Env × Pending
  | 0, s, c => (s, .serving c)
  | fuel + 1, s, c =>
    match s.proceed c with
    | (s, .ok c) => serve fuel s c
    | (s, .error p) => (s, p)

/-- Serves a connection; every request takes at least one byte. -/
def serveAll (s : Session δ Env) (c : Connection) : Session δ Env × Pending :=
  serve (2 * c.rest.length + 2) s c

/-! ## Steps that have begun -/

/-- Steps that run together answer when all of them do. -/
def settled (l : List Pending) : Pending :=
  match l.mapM fun p => match p with
    | .done a => some a
    | _ => none with
  | some answers => .done (.all answers)
  | none => .together l

/-- A step that waits for a task: it answers once the task has ended, and is `p` until
then. -/
def lookAt (s : Session δ Env) (id : Nat) (p : Pending) : Pending :=
  match s.service.outcome? id with
  | some (time, outcome) => .done (s.outcomeAnswer time outcome)
  | none => p

mutual

/-- Gives a step that has begun its turn. -/
def poll (s : Session δ Env) : Pending → Session δ Env × Pending
  | .done a => (s, .done a)
  | .sleeping time => (s, if time ≤ s.service.now then .done .nothing else .sleeping time)
  | .task id =>
    let s := s.within (·.turn id)
    (s, s.lookAt id (.task id))
  | .joining id => (s, s.lookAt id (.joining id))
  | .serving c => serveAll s c
  | .together l =>
    let (s, l) := pollAll s l
    (s, settled l)

/-- Gives steps that run together their turns, in order. -/
def pollAll (s : Session δ Env) : List Pending → Session δ Env × List Pending
  | [] => (s, [])
  | p :: rest =>
    let (s, p) := poll s p
    let (s, rest) := pollAll s rest
    (s, p :: rest)

end

mutual

/-- When a step that has begun waits for the clock alone. -/
def alarm : Pending → Option Instant
  | .sleeping time => some time
  | .serving c => some c.hangUp
  | .together l => alarms l
  | _ => none

/-- When the first of several steps waits for the clock alone. -/
def alarms : List Pending → Option Instant
  | [] => none
  | p :: rest =>
    match alarm p, alarms rest with
    | some a, some b => some (min a b)
    | some a, none => some a
    | none, b => b

end

/-! ## Beginning a step -/

/-- A step that begins a task and lets it run. -/
def launch (s : Session δ Env) (f : Service δ Env → Service δ Env) : Session δ Env × Pending :=
  let id := s.service.tasks.length
  poll (s.within f) (.task id)

/-- A step on a registered dependency answers nothing if there is none. -/
def launchOn (s : Session δ Env) (name : String) (f : Service δ Env → Service δ Env) :
    Session δ Env × Pending :=
  if (s.service.registry.get? name).isSome then s.launch f else (s, .done .nothing)

/-- A request to the health endpoint. -/
def requestHealth (s : Session δ Env) (request : Http.Request) : Session δ Env × Pending :=
  match Http.routeHealth request with
  | .respond r => (s, .done (.response r))
  | .report => s.launch (·.beginRequest)

/-- Starts a loop of the ticker and gives it its first turn. -/
def startTicker (s : Session δ Env) : Session δ Env × Pending :=
  let id := s.service.tasks.length
  let s := { s with
    service := s.service.beginTicker.turn id
    loops := s.loops ++ [id]
    joinable := some id }
  (s, .done s.tickerAnswer)

mutual

/-- Begins a step and gives it its first turn. -/
def begin (s : Session δ Env) : Step δ → Session δ Env × Pending
  | .advance millis => poll s (.sleeping (s.service.now + restTime millis))
  | .register name dependency =>
    let (old, service) := s.service.register name dependency
    ({ s with service := service, names := s.names ++ [name] }, .done (.handle old))
  | .get name => (s, .done (.handle (s.service.registry.get? name)))
  | .all => (s, .done (.entries s.service.registry.all))
  | .registry => (s, .done (.registry s.service.registry))
  | .closeAll => s.launch fun v => v.beginClosing v.registry.all
  | .tallies =>
    (s, .done (.tallies (s.names.zip (s.service.handles.map (·.tally)))))
  | .connect name => s.launchOn name (·.beginConnect name)
  | .probe name deadline =>
    s.launchOn name fun v => v.beginProbe name (v.now + deadline)
  | .report deadline => s.launch fun v => v.beginReport (v.now + deadline)
  | .cycle => s.launch (·.beginCycle)
  | .health request => s.requestHealth request
  | .metrics request =>
    (s, .done (.response (Http.metricsResponse s.metricsPath s.metrics request)))
  | .wire metrics text =>
    serveAll s ⟨metrics, Http.bytesOf text, .http11, none, [], s.service.now + patience⟩
  | .startTicker => s.startTicker
  | .signalTicker =>
    let s := s.within (·.signal)
    (s, .done s.tickerAnswer)
  | .tickerState => (s, .done s.tickerAnswer)
  | .joinTicker =>
    match s.joinable with
    | some id => poll { s with joinable := none } (.joining id)
    | none => (s, .done .nothing)
  | .together steps =>
    let (s, l) := beginAll s steps
    (s, settled l)

/-- Begins steps that run together, in order. -/
def beginAll (s : Session δ Env) : List (Step δ) → Session δ Env × List Pending
  | [] => (s, [])
  | step :: rest =>
    let (s, p) := begin s step
    let (s, l) := beginAll s rest
    (s, p :: l)

end

/-! ## Running a step -/

/-- The earlier of two moments. -/
def earlier : Option Instant → Option Instant → Option Instant
  | some a, some b => some (min a b)
  | some a, none => some a
  | none, b => b

/-- Gives the loops of the ticker their turns. -/
def turnLoops (s : Session δ Env) : Session δ Env :=
  s.within fun v => s.loops.foldl Service.turn v

/-- Goes on with a step until it answers: the loops of the ticker take their
turns, time jumps to the next moment at which something is to be done, and the
step takes its turn. -/
def await : (fuel : Nat) → Session δ Env → Pending → Session δ Env × Answer
  | _, s, .done a => (s, a)
  | 0, s, _ => (s, .nothing)
  | fuel + 1, s, p =>
    let (s, p) := poll s.turnLoops p
    match p with
    | .done a => (s, a)
    | p =>
      match earlier s.service.wake (alarm p) with
      | none => (s, .nothing)
      | some time =>
        let (s, p) := poll (s.within (·.pass time)) p
        await fuel s p

/-- The most moments that a step is waited for. -/
def maxMoments : Nat := Nat.pow 2 48

/-- Runs a step. -/
def step (s : Session δ Env) (st : Step δ) : Session δ Env × Answer :=
  let (s, p) := s.begin st
  await maxMoments s p

/-- What the service told during a step, given the log before it. -/
def toldSince (before after : Session δ Env) : List LogEntry :=
  (after.service.log.take (after.service.log.length - before.service.log.length)).reverse

/-- The name of the dependency that an event is about; empty if it is about
none. -/
def subject (e : Event) : String :=
  match e.fields.find? (·.1 == "dependency") with
  | some (_, .quoted s) => s
  | some (_, .plain s) => s
  | _ => ""

/-- The order in which the events of a step are listed: by time, then by the
dependency they are about, then by their message. -/
def listedBefore (a b : LogEntry) : Bool :=
  if a.time ≠ b.time then a.time < b.time
  else if subject a.event ≠ subject b.event then subject a.event < subject b.event
  else decide (a.event.message ≤ b.event.message)

end Session

end HealthWatch
