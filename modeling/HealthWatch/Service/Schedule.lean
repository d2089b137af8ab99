import HealthWatch.Service.Moves

/-!
# Turns

`Service.turn` gives a task its turn: it moves until it has to wait, lane after
lane in the order of names.  A turn is nothing but a list of moves of
`Service.act`, made in one of the orders that are possible.
-/

namespace HealthWatch.Service

variable {δ Env : Type} [Dependency δ Env]

/-- The running job of a task. -/
def job? (s : Service δ Env) (id : Nat) : Option Job :=
  match s.tasks[id]? with
  | some (.running _ job) => some job
  | _ => none

/-- The lanes of a job. -/
def jobLanes : Job → List Lane
  | .reporting _ g => g.lanes
  | .ticking (.cycling _ g) => g.lanes
  | _ => []

/-- Whether a part of a task has something to do now. -/
def isDue (s : Service δ Env) (id : Nat) (part : Part) : Bool :=
  match s.job? id, part with
  | some (.probing p), .whole => decide (p.wake ≤ s.now)
  | some (.reporting _ g), .whole => g.results?.isSome
  | some (.connecting _ call), .whole => call.ends.any (decide <| · ≤ s.now)
  | some (.closing c), .whole =>
    match c.current with
    | none => true
    | some (_, _, call) => call.ends.any (decide <| · ≤ s.now)
  | some (.ticking .starting), .whole => true
  | some (.ticking (.idle next)), .whole => decide (next ≤ s.now) && !s.ticker.signalled
  | some (.ticking (.cycling _ g)), .whole => g.results?.isSome
  | some (.ticking .starting), .signal => false
  | some (.ticking _), .signal => s.ticker.signalled
  | some job, .lane n =>
    match (jobLanes job)[n]? with
    | some (.running p) => decide (p.wake ≤ s.now)
    | _ => false
  | _, _ => false

/-- Moves a part of a task as long as it has something to do, at most `fuel`
times. -/
def repeatPart (id : Nat) (part : Part) : (fuel : Nat) → Service δ Env → Service δ Env
  | 0, s => s
  | fuel + 1, s =>
    if s.isDue id part then repeatPart id part fuel (s.move id part) else s

/-- How many moves a lane can still make. -/
def lanesMoves (s : Service δ Env) : Lane → Nat
  | .running p => p.movesLeft s.prober
  | .finished .. => 0

/-- How many moves in a row a task as a whole can make. -/
def wholeMoves (s : Service δ Env) : Job → Nat
  | .probing p => p.movesLeft s.prober
  | .closing c => 2 * c.remaining.length + 3
  | _ => 1

/-- Moves every lane of a task as far as it goes. -/
def turnLanes (s : Service δ Env) (id : Nat) : Service δ Env :=
  match s.job? id with
  | none => s
  | some job =>
    (jobLanes job).zipIdx.foldl (fun s (lane, n) =>
      repeatPart id (.lane n) (s.lanesMoves lane) s) s

/-- One round of a task: a signal is noticed, the task moves, its lanes move,
and the task moves again when they have finished. -/
def round (s : Service δ Env) (id : Nat) : Service δ Env :=
  let s := repeatPart id .signal 1 s
  let s := repeatPart id .whole ((s.job? id).elim 0 s.wholeMoves) s
  let s := repeatPart id .signal 1 s
  let s := s.turnLanes id
  repeatPart id .whole ((s.job? id).elim 0 s.wholeMoves) s

/-- The turn of a task.  A second round is for a cycle that ends at the very
tick of the next one. -/
def turn (s : Service δ Env) (id : Nat) : Service δ Env := (s.round id).round id

/-- What a task ended with, and when. -/
def outcome? (s : Service δ Env) (id : Nat) : Option (Instant × Outcome) :=
  match s.tasks[id]? with
  | some (.ended time outcome) => some (time, outcome)
  | _ => none

end HealthWatch.Service
