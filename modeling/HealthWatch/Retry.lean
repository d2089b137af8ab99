import HealthWatch.Report

/-!
# Bounded retry with a fixed pause

A `RetryPolicy` allows a number of attempts with a fixed pause between them.
What follows a failed attempt is one decision, `RetryPolicy.afterFailure`: an
error that is not worth another attempt ends the run even if it was the last
one allowed, and only an error that is worth one can exhaust the attempts.

`RetryPolicy.run` plays a whole run of an operation whose calls answer as a
script says, on a clock of its own.
-/

namespace HealthWatch

/-- Whether an error is worth another attempt. -/
inductive Decision where
  | retry
  | giveUp
deriving DecidableEq

/-- What a run of attempts tells about a failed one. -/
inductive RetryEvent where
  /-- The error was not worth another attempt. -/
  | nonRetryable (error : String)
  /-- It was the last attempt allowed. -/
  | exhausted (attempts : Nat) (error : String)
  /-- Another attempt follows after a pause. -/
  | retrying (attempt : Nat) (error : String) (pause : Duration)
deriving DecidableEq

/-- How often something is tried, and the pause between attempts in
milliseconds. -/
structure RetryPolicy where
  maxAttempts : Nat
  pause : Nat
  maxAttempts_pos : 0 < maxAttempts

namespace RetryPolicy

/-- The policy of `attempts` attempts; none counts as one. -/
def of (attempts pause : Nat) : RetryPolicy :=
  ⟨max attempts 1, pause, by omega⟩

/-- How long the pause between two attempts lasts. -/
def rest (p : RetryPolicy) : Nat := restTime p.pause

/-- What is told when attempt `attempt` failed, and whether another follows. -/
def afterFailure (p : RetryPolicy) (attempt : Nat) (decision : Decision) (error : String) :
    RetryEvent × Decision :=
  match decision with
  | .giveUp => (.nonRetryable error, .giveUp)
  | .retry =>
    if p.maxAttempts ≤ attempt then (.exhausted attempt error, .giveUp)
    else (.retrying attempt error (.ofMillis p.pause), .retry)

/-- An answer of an operation: what it is and how long it takes. -/
structure Answer (ε α : Type) where
  wait : Nat
  outcome : Except ε α

/-- A run of attempts as it is seen from outside. -/
structure Trace (ε α : Type) where
  /-- When each attempt began. -/
  calls : List Instant
  /-- The errors that were decided on, and when. -/
  decided : List (Instant × ε)
  /-- What was told, and when. -/
  events : List (Instant × RetryEvent)
  finished : Instant
  outcome : Except ε α

/-- Makes attempt `attempt` at `now`, and those that follow; `left` more are
allowed after it. -/
def attempts {ε α : Type} (p : RetryPolicy) (operation : Nat → Answer ε α)
    (hook : Instant → ε → Decision) (text : ε → String) :
    (left attempt : Nat) → (now : Instant) → Trace ε α
  | 0, attempt, now =>
    let answer := operation attempt
    let ended := now + answer.wait
    match answer.outcome with
    | .ok value => ⟨[now], [], [], ended, .ok value⟩
    | .error e =>
      let (event, _) := p.afterFailure attempt (hook ended e) (text e)
      ⟨[now], [(ended, e)], [(ended, event)], ended, .error e⟩
  | left + 1, attempt, now =>
    let answer := operation attempt
    let ended := now + answer.wait
    match answer.outcome with
    | .ok value => ⟨[now], [], [], ended, .ok value⟩
    | .error e =>
      let (event, next) := p.afterFailure attempt (hook ended e) (text e)
      match next with
      | .giveUp => ⟨[now], [(ended, e)], [(ended, event)], ended, .error e⟩
      | .retry =>
        let rest := attempts p operation hook text left (attempt + 1) (ended + p.rest)
        ⟨now :: rest.calls, (ended, e) :: rest.decided, (ended, event) :: rest.events,
          rest.finished, rest.outcome⟩

/-- A whole run from `start`: the `n`-th attempt answers `operation n`, counted
from one, and `hook` decides on each error at the instant it comes. -/
def run {ε α : Type} (p : RetryPolicy) (operation : Nat → Answer ε α)
    (hook : Instant → ε → Decision) (text : ε → String) (start : Instant) : Trace ε α :=
  p.attempts operation hook text (p.maxAttempts - 1) 1 start

end RetryPolicy

/-- What the `n`-th call takes from a list, counted from one: the last entry
repeats, and an empty list gives `start`. -/
def scripted {α : Type} (entries : List α) (start : α) (n : Nat) : α :=
  (entries[n - 1]?).getD (entries.getLastD start)

end HealthWatch
