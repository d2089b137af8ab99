import HealthWatch.Proofs.TaskMoves

/-!
# A probe on its own

`Probe.finish` plays a probe to its end with nobody else around: it makes each move
at the moment it woke up for.  The result depends on what the dependency's answers
depend on, and on nothing else (`finish_congr`).

What that is, a `Footprint` says.  The *sight* of a dependency is the part of the
dependency and of the shared surroundings that its answers are made from, and two
dependencies are *apart* if the calls on one do not change the sight of the other.
-/

namespace HealthWatch

open Dependency (Later)

/-- What answers are made from.  Dependencies with equal sights answer alike and go
on having equal sights; a call on a dependency leaves the sights of those that are
apart from it, and calls keep dependencies apart. -/
structure Footprint (δ Env : Type) [Dependency δ Env] where
  Sight : Type
  sight : δ → Env → Sight
  Apart : δ → δ → Prop
  hasDetails_eq : ∀ {d₁ d₂ : δ} {e₁ e₂ : Env}, sight d₁ e₁ = sight d₂ e₂ →
    Dependency.hasDetails d₁ = Dependency.hasDetails d₂
  check_eq : ∀ {d₁ d₂ : δ} {e₁ e₂ : Env} (now : Instant), sight d₁ e₁ = sight d₂ e₂ →
    (Dependency.check now d₁ e₁).1 = (Dependency.check now d₂ e₂).1 ∧
      sight (Dependency.check now d₁ e₁).2.1 (Dependency.check now d₁ e₁).2.2 =
        sight (Dependency.check now d₂ e₂).2.1 (Dependency.check now d₂ e₂).2.2
  details_eq : ∀ {d₁ d₂ : δ} {e₁ e₂ : Env} (now : Instant), sight d₁ e₁ = sight d₂ e₂ →
    (Dependency.details now d₁ e₁).1 = (Dependency.details now d₂ e₂).1 ∧
      sight (Dependency.details now d₁ e₁).2.1 (Dependency.details now d₁ e₁).2.2 =
        sight (Dependency.details now d₂ e₂).2.1 (Dependency.details now d₂ e₂).2.2
  apart_later : ∀ {d₁ d₂ d₁' d₂' : δ}, Apart d₁ d₂ → Later d₁ d₁' → Later d₂ d₂' →
    Apart d₁' d₂'
  sight_check : ∀ {d₁ d₂ : δ} (now : Instant) (env : Env), Apart d₁ d₂ →
    sight d₁ (Dependency.check now d₂ env).2.2 = sight d₁ env
  sight_details : ∀ {d₁ d₂ : δ} (now : Instant) (env : Env), Apart d₁ d₂ →
    sight d₁ (Dependency.details now d₂ env).2.2 = sight d₁ env

/-- Scripted dependencies share nothing, so each sees itself alone. -/
def Scripted.footprint : Footprint Scripted Unit where
  Sight := Scripted
  sight d _ := d
  Apart _ _ := True
  hasDetails_eq h := congrArg _ h
  check_eq now h := by cases h; exact ⟨rfl, rfl⟩
  details_eq now h := by cases h; exact ⟨rfl, rfl⟩
  apart_later _ _ _ := trivial
  sight_check _ _ _ := rfl
  sight_details _ _ _ := rfl

namespace Probe

variable {δ Env : Type} [Dependency δ Env] {prober : Prober}

/-- Plays a probe to its end, with each move at the moment it woke up for. -/
def finish (prober : Prober) (p : Probe) (h : Handle δ) (env : Env) : ProbeResult :=
  match _hprogress : (p.resume prober p.wake h env).progress with
  | .going q =>
    q.finish prober (p.resume prober p.wake h env).handle (p.resume prober p.wake h env).env
  | .done finding => ⟨finding, p.wake⟩
termination_by p.movesLeft prober
decreasing_by exact movesLeft_resume_lt ‹_›

theorem finish_going {p q : Probe} {h : Handle δ} {env : Env}
    (hgoing : (p.resume prober p.wake h env).progress = .going q) :
    p.finish prober h env =
      q.finish prober (p.resume prober p.wake h env).handle
        (p.resume prober p.wake h env).env := by
  rw [finish]
  split
  · next q' hq' =>
    cases hgoing.symm.trans hq'
    rfl
  · next finding hfinding => cases hgoing.symm.trans hfinding

theorem finish_done {p : Probe} {h : Handle δ} {env : Env} {finding : Finding}
    (hdone : (p.resume prober p.wake h env).progress = .done finding) :
    p.finish prober h env = ⟨finding, p.wake⟩ := by
  rw [finish]
  split
  · next q hq => cases hdone.symm.trans hq
  · next finding' hfinding' =>
    cases hdone.symm.trans hfinding'
    rfl

/-- A probe that is due on time comes, by a move of its own, closer to the same result. -/
theorem finish_resume {handles : Nat} {now : Instant} {p : Probe} (h : Handle δ) (env : Env)
    (hp : p.Sound prober handles now) (hdue : p.wake ≤ now) :
    match (p.resume prober now h env).progress with
    | .going q => p.finish prober h env =
        q.finish prober (p.resume prober now h env).handle (p.resume prober now h env).env
    | .done finding => p.finish prober h env = ⟨finding, now⟩ := by
  obtain rfl : p.wake = now := Nat.le_antisymm hdue hp.now_le_wake
  split
  · next q hgoing => exact finish_going hgoing
  · next finding hdone => exact finish_done hdone

/-- A probe on time does not end before it wakes up. -/
theorem wake_le_finish {handles : Nat} {now : Instant} {p : Probe} {h : Handle δ} {env : Env}
    (hp : p.Sound prober handles now) : p.wake ≤ (p.finish prober h env).checkedAt := by
  have hwoken : p.Sound prober handles p.wake := hp.wait hp.now_le_wake (Nat.le_refl _)
  clear hp
  fun_induction finish prober p h env with
  | case1 p h env q hgoing ih =>
      have hq := hwoken.resume hgoing
      exact Nat.le_trans hq.now_le_wake (ih (hq.wait hq.now_le_wake (Nat.le_refl _)))
  | case2 p h env finding hdone => exact Nat.le_refl _

/-! ## What the result depends on -/

/-- Probes that differ at most in whom they are about. -/
structure Alike (p p' : Probe) : Prop where
  started : p.started = p'.started
  deadline : p.deadline = p'.deadline
  stage : p.stage = p'.stage

/-- Moves of probes that differ at most in whom they are about. -/
inductive Progress.Alike : Progress → Progress → Prop
  | going {q q' : Probe} (h : q.Alike q') : Progress.Alike (.going q) (.going q')
  | done (finding : Finding) : Progress.Alike (.done finding) (.done finding)

/-- Probes that are alike, of dependencies with equal sights, make moves that are
alike and leave equal sights. -/
theorem resume_congr (F : Footprint δ Env) (prober : Prober) {p p' : Probe} (hp : p.Alike p')
    (now : Instant) {h h' : Handle δ} {env env' : Env}
    (hsight : F.sight h.dependency env = F.sight h'.dependency env') :
    Progress.Alike (p.resume prober now h env).progress (p'.resume prober now h' env').progress ∧
      F.sight (p.resume prober now h env).handle.dependency (p.resume prober now h env).env =
        F.sight (p'.resume prober now h' env').handle.dependency
          (p'.resume prober now h' env').env := by
  obtain ⟨name, handle, started, deadline, stage⟩ := p
  obtain ⟨name', handle', _, _, _⟩ := p'
  obtain ⟨rfl, rfl, rfl⟩ := hp
  cases stage with
  | due attempt time =>
      simp only [resume, Probe.begin, F.hasDetails_eq hsight]
      split
      · obtain ⟨hreply, hlater⟩ := F.details_eq now hsight
        refine ⟨?_, hlater⟩
        simp only [Handle.details, hreply]
        exact .going ⟨rfl, rfl, rfl⟩
      · obtain ⟨hreply, hlater⟩ := F.check_eq now hsight
        refine ⟨?_, hlater⟩
        simp only [Handle.check, hreply]
        exact .going ⟨rfl, rfl, rfl⟩
  | diagnosing ends outcome =>
      refine ⟨?_, hsight⟩
      cases outcome <;> exact .done _
  | checking attempt ends outcome =>
      refine ⟨?_, hsight⟩
      cases outcome with
      | ok value => exact .done _
      | error e =>
          simp only [resume, checked]
          split
          · exact .going ⟨rfl, rfl, rfl⟩
          · exact .done _

/-- A move of a probe leaves the sights of dependencies that are apart from its own. -/
theorem resume_sight (F : Footprint δ Env) (p : Probe) (now : Instant) {d : δ} {h : Handle δ}
    (env : Env) (hapart : F.Apart d h.dependency) :
    F.sight d (p.resume prober now h env).env = F.sight d env := by
  unfold resume
  split
  · unfold Probe.begin
    split
    · exact F.sight_details now env hapart
    · exact F.sight_check now env hapart
  · rfl
  · rfl

/-- **The result of a probe on its own.**  It is the same for probes that are alike
and dependencies with equal sights, whatever else differs. -/
theorem finish_congr (F : Footprint δ Env) {p p' : Probe} (hp : p.Alike p')
    {h h' : Handle δ} {env env' : Env}
    (hsight : F.sight h.dependency env = F.sight h'.dependency env') :
    p.finish prober h env = p'.finish prober h' env' := by
  fun_induction finish prober p h env generalizing p' h' env' with
  | case1 p h env q hgoing ih =>
      obtain ⟨halike, hsight'⟩ := resume_congr F prober hp p.wake hsight
      have hwake : p.wake = p'.wake := by rw [wake, wake, hp.stage]
      rw [hgoing, hwake] at halike
      generalize hgoing' : (p'.resume prober p'.wake h' env').progress = progress' at halike
      cases halike with
      | going hq =>
          rw [finish_going hgoing']
          exact ih hq (hwake ▸ hsight')
  | case2 p h env finding hdone =>
      obtain ⟨halike, _⟩ := resume_congr F prober hp p.wake hsight
      have hwake : p.wake = p'.wake := by rw [wake, wake, hp.stage]
      rw [hdone, hwake] at halike
      generalize hdone' : (p'.resume prober p'.wake h' env').progress = progress' at halike
      cases halike
      rw [finish_done hdone', hwake]

end Probe

end HealthWatch
