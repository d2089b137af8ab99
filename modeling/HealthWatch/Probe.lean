import HealthWatch.Dependency
import HealthWatch.Event

/-!
# Probing one dependency

A probe finds out about one dependency within a deadline, and never fails: an
error becomes a finding.  A dependency with diagnostics is asked for them once.
Any other is checked, and checked again after a pause, as long as attempts are
left and another one could still be answered before the deadline.

A `Probe` is a probe under way.  It rests until `Probe.wake`; then
`Probe.resume` takes it one move further.
-/

namespace HealthWatch

/-- How dependencies are probed. -/
structure Prober where
  /-- The most a probe may take, in milliseconds. -/
  ceiling : Nat
  retry : RetryPolicy

namespace Prober

/-- Five seconds, three attempts, two seconds between them. -/
def standard : Prober := ⟨5000, .of 3 2000⟩

/-- Whether an error that came at `now` is worth another attempt.  One that
could only be cut off is not made. -/
def decide (p : Prober) (deadline now : Instant) : DependencyError → Decision
  | .deadlineExceeded _ | .closed => .giveUp
  | _ => if deadline ≤ now + p.retry.pause then .giveUp else .retry

end Prober

/-- What a probe is doing. -/
inductive Probe.Stage where
  /-- Attempt `attempt` is to begin at `time`. -/
  | due (attempt : Nat) (time : Instant)
  /-- Diagnostics were asked for. -/
  | diagnosing (ends : Instant) (outcome : Except DependencyError Diagnostics)
  /-- Attempt `attempt` was begun. -/
  | checking (attempt : Nat) (ends : Instant) (outcome : Except DependencyError Unit)

/-- A probe under way. -/
structure Probe where
  name : String
  handle : Nat
  started : Instant
  deadline : Instant
  stage : Probe.Stage

namespace Probe

/-- A probe that begins at `now` and has until `deadline`, but never longer
than the prober's ceiling. -/
def start (p : Prober) (name : String) (handle : Nat) (deadline now : Instant) : Probe :=
  ⟨name, handle, now, min deadline (now + p.ceiling), .due 1 now⟩

/-- When the probe has something to do again. -/
def wake (p : Probe) : Instant :=
  match p.stage with
  | .due _ time => time
  | .diagnosing ends _ => ends
  | .checking _ ends _ => ends

/-- Whether a call of the probe is under way. -/
def isCalling (p : Probe) : Bool :=
  match p.stage with
  | .due .. => false
  | _ => true

/-- A probe after a move: still under way, or with what it found. -/
inductive Progress where
  | going (p : Probe)
  | done (finding : Finding)

/-- What a move of a probe leaves behind. -/
structure Move (δ Env : Type) where
  handle : Handle δ
  env : Env
  events : List Event
  progress : Progress

/-- How long the probe has been under way. -/
def elapsed (p : Probe) (now : Instant) : Duration := .ofMillis (now - p.started)

variable {δ Env : Type} [Dependency δ Env]

/-- Begins an attempt. -/
def begin (p : Probe) (attempt : Nat) (now : Instant) (h : Handle δ) (env : Env) :
    Move δ Env :=
  if Dependency.hasDetails h.dependency then
    let (reply, h, env) := h.details now env
    let (ends, outcome) := reply.within p.started p.deadline now
    ⟨h, env, [], .going { p with stage := .diagnosing ends outcome }⟩
  else
    let (reply, h, env) := h.check now env
    let (ends, outcome) := reply.within p.started p.deadline now
    ⟨h, env, [], .going { p with stage := .checking attempt ends outcome }⟩

/-- What follows from diagnostics, or from their failure. -/
def diagnosed (p : Probe) (outcome : Except DependencyError Diagnostics) (now : Instant) :
    List Event × Progress :=
  match outcome with
  | .ok d =>
    ([.diagnosed p.name d.uptime d.latency (p.elapsed now)],
      .done (.healthy (some d.uptime) (some d.latency)))
  | .error e =>
    ([.diagnosticsFailed p.name (p.elapsed now) e],
      .done (.unhealthy e.text (some (p.elapsed now).toMillis)))

/-- What follows from a check. -/
def checked (prober : Prober) (p : Probe) (attempt : Nat)
    (outcome : Except DependencyError Unit) (now : Instant) : List Event × Progress :=
  match outcome with
  | .ok () => ([.probeSucceeded p.name (p.elapsed now)], .done (.healthy none none))
  | .error e =>
    let (told, next) :=
      prober.retry.afterFailure attempt (prober.decide p.deadline now e) e.text
    match next with
    | .retry =>
      ([.retry told],
        .going { p with stage := .due (attempt + 1) (now + prober.retry.rest) })
    | .giveUp =>
      ([.retry told, .probeFailed p.name (p.elapsed now) e], .done (.unhealthy e.text none))

/-- Takes a probe one move further at `now`. -/
def resume (prober : Prober) (p : Probe) (now : Instant) (h : Handle δ) (env : Env) :
    Move δ Env :=
  match p.stage with
  | .due attempt _ => p.begin attempt now h env
  | .diagnosing _ outcome =>
    let (events, progress) := p.diagnosed outcome now
    ⟨h.leave, env, events, progress⟩
  | .checking attempt _ outcome =>
    let (events, progress) := checked prober p attempt outcome now
    ⟨h.leave, env, events, progress⟩

/-- How many moves a probe can still make: every attempt takes two. -/
def movesLeft (prober : Prober) (p : Probe) : Nat :=
  match p.stage with
  | .due attempt _ => 2 * (prober.retry.maxAttempts - attempt) + 2
  | .checking attempt _ _ => 2 * (prober.retry.maxAttempts - attempt) + 1
  | .diagnosing .. => 1

end Probe

end HealthWatch
