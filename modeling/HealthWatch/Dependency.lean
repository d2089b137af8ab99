import HealthWatch.DependencyError
import HealthWatch.Report
import HealthWatch.Retry

/-!
# Dependencies

A dependency answers calls.  How a call is going to answer is settled when it
begins: a `Reply` says how long the answer takes, if it ever comes, and what it
is.  What a dependency is made of and what dependencies share is left open, so
a statement about all dependencies is one about all behaviours.

`Reply.within` cuts a call off at a deadline.  Work is looked at before the
clock: an answer that needs no waiting always counts, and so does one that
comes exactly at the deadline.

`Scripted` is the dependency that answers from lists.
-/

namespace HealthWatch

/-- How a call is going to answer. -/
inductive Reply (α : Type) where
  /-- The answer never comes. -/
  | never
  /-- The answer comes after `wait` milliseconds. -/
  | after (wait : Nat) (outcome : Except DependencyError α)

/-- What a dependency with diagnostics tells about itself. -/
structure Diagnostics where
  uptime : String
  /-- Milliseconds. -/
  latency : Float

/-- What the service asks of a dependency.  `Env` is what dependencies share;
each call may change it.  No call changes whether there are diagnostics. -/
class Dependency (δ : Type) (Env : outParam Type) where
  /-- Whether the dependency tells diagnostics. -/
  hasDetails : δ → Bool
  /-- Asks whether the dependency is there. -/
  check : Instant → δ → Env → Reply Unit × δ × Env
  /-- Asks for diagnostics. -/
  details : Instant → δ → Env → Reply Diagnostics × δ × Env
  /-- Gives up what the dependency holds. -/
  close : Instant → δ → Env → Reply Unit × δ × Env
  /-- Tries to reach the dependency for the first time. -/
  connect : Instant → δ → Env → Reply Unit × δ × Env := check
  hasDetails_check : ∀ now d env, hasDetails (check now d env).2.1 = hasDetails d
  hasDetails_details : ∀ now d env, hasDetails (details now d env).2.1 = hasDetails d
  hasDetails_close : ∀ now d env, hasDetails (close now d env).2.1 = hasDetails d
  hasDetails_connect : ∀ now d env, hasDetails (connect now d env).2.1 = hasDetails d

/-- A call that is under way: when it ends, if it does, and how. -/
structure Call (α : Type) where
  ends : Option Instant
  outcome : Except DependencyError α

namespace Reply

/-- The same answer, but later. -/
def later {α : Type} (reply : Reply α) (wait : Nat) : Reply α :=
  match reply with
  | .never => .never
  | .after more outcome => .after (wait + more) outcome

/-- A call that began at `now` and is waited for however long it takes. -/
def unbounded {α : Type} (reply : Reply α) (now : Instant) : Call α :=
  match reply with
  | .never => ⟨none, .error .closed⟩
  | .after wait outcome => ⟨some (now + wait), outcome⟩

/-- What a call answers that was cut off at `ended`, for work that was begun
at `started`. -/
def cutOff {α : Type} (started ended : Instant) : Except DependencyError α :=
  .error (.deadlineExceeded (.ofMillis (ended - started)))

/-- When a call that began at `now` ends within `deadline`, and how. -/
def within {α : Type} (reply : Reply α) (started deadline now : Instant) :
    Instant × Except DependencyError α :=
  let cut := max now deadline
  match reply with
  | .never => (cut, cutOff started cut)
  | .after wait outcome =>
    if wait = 0 ∨ now + wait ≤ deadline then (now + wait, outcome)
    else (cut, cutOff started cut)

end Reply

/-- How often a dependency was called. -/
structure Tally where
  checks : Nat
  details : Nat
  closes : Nat
  /-- Calls under way. -/
  inFlight : Nat
  /-- Most calls that were under way at once. -/
  maxInFlight : Nat
deriving DecidableEq

namespace Tally

/-- No call so far. -/
def zero : Tally := ⟨0, 0, 0, 0, 0⟩

/-- A call begins. -/
def enter (t : Tally) : Tally :=
  { t with inFlight := t.inFlight + 1, maxInFlight := max t.maxInFlight (t.inFlight + 1) }

/-- A call ends or is given up. -/
def leave (t : Tally) : Tally := { t with inFlight := t.inFlight - 1 }

end Tally

/-- A dependency with the calls made on it. -/
structure Handle (δ : Type) where
  dependency : δ
  tally : Tally

namespace Handle

variable {δ Env : Type} [Dependency δ Env]

/-- A dependency that has not been called. -/
def new (dependency : δ) : Handle δ := ⟨dependency, .zero⟩

/-- A call on the dependency ends or is given up. -/
def leave (h : Handle δ) : Handle δ := { h with tally := h.tally.leave }

/-- Begins a check. -/
def check (now : Instant) (h : Handle δ) (env : Env) : Reply Unit × Handle δ × Env :=
  let (reply, d, env) := Dependency.check now h.dependency env
  (reply, ⟨d, { h.tally.enter with checks := h.tally.checks + 1 }⟩, env)

/-- Begins to ask for diagnostics. -/
def details (now : Instant) (h : Handle δ) (env : Env) : Reply Diagnostics × Handle δ × Env :=
  let (reply, d, env) := Dependency.details now h.dependency env
  (reply, ⟨d, { h.tally.enter with details := h.tally.details + 1 }⟩, env)

/-- Begins to close. -/
def close (now : Instant) (h : Handle δ) (env : Env) : Reply Unit × Handle δ × Env :=
  let (reply, d, env) := Dependency.close now h.dependency env
  (reply, ⟨d, { h.tally.enter with closes := h.tally.closes + 1 }⟩, env)

/-- Begins to connect, which counts as a check. -/
def connect (now : Instant) (h : Handle δ) (env : Env) : Reply Unit × Handle δ × Env :=
  let (reply, d, env) := Dependency.connect now h.dependency env
  (reply, ⟨d, { h.tally.enter with checks := h.tally.checks + 1 }⟩, env)

end Handle

/-- A dependency that answers the `n`-th call of each kind, counted from one,
as a function says. -/
structure Scripted where
  /-- Absent for a dependency without diagnostics. -/
  detailsScript : Option (Nat → Reply Diagnostics)
  checkScript : Nat → Reply Unit
  closeScript : Nat → Reply Unit
  checked : Nat
  detailed : Nat
  closed : Nat

namespace Scripted

/-- The answer of lists: each call takes the next entry, the last repeats, and
an empty list answers `start` at once. -/
def reply {α : Type} (entries : List (Reply α)) (start : α) (n : Nat) : Reply α :=
  scripted entries (.after 0 (.ok start)) n

/-- A dependency that has not been called yet, with an answer list for each
kind of call. -/
def ofLists (check close : List (Reply Unit)) (details : Option (List (Reply Diagnostics))) :
    Scripted where
  detailsScript := details.map fun l => reply l ⟨"", 0⟩
  checkScript := reply check ()
  closeScript := reply close ()
  checked := 0
  detailed := 0
  closed := 0

instance : Dependency Scripted Unit where
  hasDetails s := s.detailsScript.isSome
  check _ s _ :=
    (s.checkScript (s.checked + 1), { s with checked := s.checked + 1 }, ())
  details _ s _ :=
    match s.detailsScript with
    | some script => (script (s.detailed + 1), { s with detailed := s.detailed + 1 }, ())
    | none => (.never, s, ())
  close _ s _ :=
    (s.closeScript (s.closed + 1), { s with closed := s.closed + 1 }, ())
  hasDetails_check _ _ _ := rfl
  hasDetails_details _ s _ := by
    cases h : s.detailsScript <;> simp [h]
  hasDetails_close _ _ _ := rfl
  hasDetails_connect _ _ _ := rfl

end Scripted

end HealthWatch
