import HealthWatch.Report

/-!
# Building a value once

A `Cell` is filled by the first of its callers whose initializer succeeds.
Initializers run one at a time, in the order in which their callers came.  A
failure goes to the caller whose initializer it was, and the next caller in
line takes over; a success goes to everyone who waits and everyone who comes
later.  A caller that is dropped leaves the line, and if its initializer was
running, the next one takes over.

`Cell.act` is one thing that happens to a cell; `Cell.Timed.run` plays callers
that come, take their time and are dropped at given times.
-/

namespace HealthWatch

/-- A value that is built once.  Callers are known by their numbers. -/
structure Cell (α ε : Type) where
  value : Option α
  /-- The caller whose initializer runs. -/
  running : Option Nat
  /-- The callers in line, the next one first. -/
  line : List Nat
  /-- The callers whose initializers were started, the first one first. -/
  started : List Nat
  /-- The callers that were answered, with their answers. -/
  answers : List (Nat × Except ε α)

namespace Cell

variable {α ε : Type}

/-- A cell that nobody has called. -/
def empty : Cell α ε := ⟨none, none, [], [], []⟩

/-- What can happen to a cell. -/
inductive Action (α ε : Type) where
  /-- A caller comes. -/
  | arrive (caller : Nat)
  /-- The initializer of a caller ends. -/
  | finish (caller : Nat) (outcome : Except ε α)
  /-- A caller is dropped. -/
  | drop (caller : Nat)

/-- The next caller in line, if there is one, starts its initializer. -/
def next (c : Cell α ε) : Cell α ε :=
  match c.line with
  | [] => { c with running := none }
  | i :: rest => { c with running := some i, line := rest, started := c.started ++ [i] }

/-- A caller comes: it is answered, or starts its initializer, or waits. -/
def arrive (c : Cell α ε) (i : Nat) : Cell α ε :=
  match c.value, c.running with
  | some v, _ => { c with answers := c.answers ++ [(i, .ok v)] }
  | none, none => { c with running := some i, started := c.started ++ [i] }
  | none, some _ => { c with line := c.line ++ [i] }

/-- The running initializer ends. -/
def finish (c : Cell α ε) (i : Nat) (outcome : Except ε α) : Cell α ε :=
  if c.running = some i then
    match outcome with
    | .ok v =>
      { c with
        value := some v
        running := none
        line := []
        answers := c.answers ++ (i :: c.line).map fun j => (j, .ok v) }
    | .error e => next { c with answers := c.answers ++ [(i, .error e)] }
  else c

/-- A caller is dropped. -/
def drop (c : Cell α ε) (i : Nat) : Cell α ε :=
  if c.running = some i then c.next else { c with line := c.line.filter (· != i) }

/-- What an action does to a cell. -/
def act (c : Cell α ε) : Action α ε → Cell α ε
  | .arrive i => c.arrive i
  | .finish i outcome => c.finish i outcome
  | .drop i => c.drop i

end Cell

/-- A caller of a cell, with its times in milliseconds. -/
structure Caller (α ε : Type) where
  arrives : Instant
  /-- How long its initializer takes. -/
  takes : Nat
  outcome : Except ε α
  /-- When it is dropped, unless it has been answered. -/
  dropped : Option Instant

namespace Cell

variable {α ε : Type}

/-- A cell whose callers come at given times. -/
structure Timed (α ε : Type) where
  cell : Cell α ε
  /-- When the running initializer was started. -/
  since : Instant
  arrived : List Nat
  droppedCallers : List Nat
  /-- When each answer was given. -/
  answered : List (Nat × Instant × Except ε α)
  /-- When the value was set. -/
  filled : Option Instant

/-- Callers that have not come. -/
def Timed.start : Timed α ε := ⟨.empty, 0, [], [], [], none⟩

/-- Whether a caller was answered or dropped. -/
def Timed.isOver (t : Timed α ε) (i : Nat) : Bool :=
  t.droppedCallers.contains i || t.answered.any (·.1 == i)

/-- What can happen next through one caller: when, how early among what happens
at the same time, and what. -/
def Timed.options (t : Timed α ε) (i : Nat) (c : Caller α ε) :
    List (Instant × Nat × Action α ε) :=
  if t.isOver i then []
  else
    (if t.cell.running = some i then [(t.since + c.takes, 0, .finish i c.outcome)] else [])
    ++ (if t.arrived.contains i then [] else [(c.arrives, 1, .arrive i)])
    ++ (match c.dropped with
      | some time => [(time, 2, .drop i)]
      | none => [])

/-- The earliest of several things. -/
def earliest : List (Instant × Nat × Action α ε) → Option (Instant × Action α ε)
  | [] => none
  | (time, rank, a) :: rest =>
    let best := rest.foldl (fun best o =>
      if o.1 < best.1 || (o.1 == best.1 && decide (o.2.1 < best.2.1)) then o else best)
      (time, rank, a)
    some (best.1, best.2.2)

/-- Something happens at `time`. -/
def Timed.act (t : Timed α ε) (time : Instant) (a : Action α ε) : Timed α ε :=
  let cell := t.cell.act a
  { cell := cell
    since := if cell.started.length = t.cell.started.length then t.since else time
    arrived := match a with
      | .arrive i => t.arrived ++ [i]
      | _ => t.arrived
    droppedCallers := match a with
      | .drop i => t.droppedCallers ++ [i]
      | _ => t.droppedCallers
    answered := t.answered ++
      (cell.answers.drop t.cell.answers.length).map fun x => (x.1, time, x.2)
    filled := if t.cell.value.isNone && cell.value.isSome then some time else t.filled }

/-- Plays at most `fuel` things that happen. -/
def Timed.play (callers : List (Caller α ε)) : (fuel : Nat) → Timed α ε → Timed α ε
  | 0, t => t
  | fuel + 1, t =>
    match earliest (callers.zipIdx.flatMap fun (c, i) => t.options i c) with
    | none => t
    | some (time, a) => Timed.play callers fuel (t.act time a)

/-- Plays callers to the end.  Each comes, ends its initializer and is dropped
at most once. -/
def Timed.run (callers : List (Caller α ε)) : Timed α ε :=
  Timed.play callers (3 * callers.length) .start

/-- What the cell holds at `time`. -/
def Timed.valueAt (t : Timed α ε) (time : Instant) : Option α :=
  match t.filled with
  | some f => if f ≤ time then t.cell.value else none
  | none => none

end Cell

end HealthWatch
