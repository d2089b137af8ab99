import HealthWatch.Probe

/-!
# The stages of a probe

A probe goes from stage to stage: an attempt is due, its call is under way, and
then either another attempt is due or the probe has its finding.  `Stage.Next`
and `Stage.Ends` say once what a move of a probe can do, whatever the dependency
answers, and `resume_going` and `resume_done` say that nothing else happens.

The invariant that all bounds on time come from is `Probe.Sound`: a probe never
wakes in the past and never after its deadline.  It is kept by every move
(`Sound.resume`) and by the passing of time up to the probe's next moment
(`Sound.wait`).  Every move also leaves the probe with fewer moves to make
(`movesLeft_resume_lt`), so a probe ends.
-/

namespace HealthWatch

/-- A call that is cut off at a deadline ends no sooner than it began, and no
later than at the deadline unless that was over when it began. -/
theorem Reply.within_bounds {α : Type} (reply : Reply α) (started deadline now : Instant) :
    now ≤ (reply.within started deadline now).1 ∧
      (reply.within started deadline now).1 ≤ max now deadline := by
  cases reply with
  | never => exact ⟨Nat.le_max_left _ _, Nat.le_refl _⟩
  | after wait outcome =>
      simp only [Reply.within]
      split
      · next hwithin => exact ⟨Nat.le_add_right _ _, by grind⟩
      · exact ⟨Nat.le_max_left _ _, Nat.le_refl _⟩

/-- An error is worth another attempt only if the pause ends before the deadline. -/
theorem Prober.room_of_retry {p : Prober} {deadline now : Instant} {e : DependencyError}
    (h : p.decide deadline now e = .retry) : now + p.retry.pause < deadline := by
  unfold Prober.decide at h
  split at h
  · cases h
  · cases h
  · split at h
    · cases h
    · next hroom => exact Nat.lt_of_not_le hroom

/-- Another attempt follows only if the error is worth one and one is left. -/
theorem RetryPolicy.afterFailure_retry {p : RetryPolicy} {attempt : Nat} {decision : Decision}
    {error : String} (h : (p.afterFailure attempt decision error).2 = .retry) :
    decision = .retry ∧ attempt < p.maxAttempts := by
  unfold RetryPolicy.afterFailure at h
  split at h
  · cases h
  · split at h
    · cases h
    · exact ⟨rfl, by omega⟩

namespace Probe

variable {δ Env : Type} [Dependency δ Env]

/-- The stages that can follow a stage at `now`.  `detailed` says whether the
dependency tells diagnostics. -/
inductive Stage.Next (prober : Prober) (deadline now : Instant) (detailed : Bool) :
    Stage → Stage → Prop
  | diagnose {attempt time ends outcome} (hdetailed : detailed = true)
      (hfrom : now ≤ ends) (hto : ends ≤ max now deadline) :
      Next prober deadline now detailed (.due attempt time) (.diagnosing ends outcome)
  | check {attempt time ends outcome} (hplain : detailed = false)
      (hfrom : now ≤ ends) (hto : ends ≤ max now deadline) :
      Next prober deadline now detailed (.due attempt time) (.checking attempt ends outcome)
  | retry {attempt ends e} (hleft : attempt < prober.retry.maxAttempts)
      (hroom : now + prober.retry.rest < deadline) :
      Next prober deadline now detailed (.checking attempt ends (.error e))
        (.due (attempt + 1) (now + prober.retry.rest))

/-- The findings that a stage can end with. -/
inductive Stage.Ends : Stage → Finding → Prop
  | diagnosed {ends d} : Ends (.diagnosing ends (.ok d)) (.healthy (some d.uptime) (some d.latency))
  | undiagnosed {ends e latency} :
      Ends (.diagnosing ends (.error e)) (.unhealthy e.text (some latency))
  | answered {attempt ends} : Ends (.checking attempt ends (.ok ())) (.healthy none none)
  | gaveUp {attempt ends e} : Ends (.checking attempt ends (.error e)) (.unhealthy e.text none)

/-- A move that does not end a probe takes it to a next stage and changes
nothing else. -/
theorem resume_going {prober : Prober} {p q : Probe} {now : Instant} {h : Handle δ} {env : Env}
    (hgoing : (p.resume prober now h env).progress = .going q) :
    ∃ stage, Stage.Next prober p.deadline now (Dependency.hasDetails h.dependency) p.stage stage ∧
      q = { p with stage := stage } := by
  unfold resume at hgoing
  split at hgoing
  · next attempt time hstage =>
    unfold Probe.begin at hgoing
    split at hgoing
    · next hdetailed =>
      obtain ⟨hfrom, hto⟩ :=
        (h.details now env).1.within_bounds p.started p.deadline now
      refine ⟨_, ?_, (Progress.going.inj hgoing).symm⟩
      rw [hstage]
      exact .diagnose hdetailed hfrom hto
    · next hplain =>
      obtain ⟨hfrom, hto⟩ :=
        (h.check now env).1.within_bounds p.started p.deadline now
      refine ⟨_, ?_, (Progress.going.inj hgoing).symm⟩
      rw [hstage]
      exact .check (by simpa using hplain) hfrom hto
  · next ends outcome hstage =>
    unfold diagnosed at hgoing
    cases outcome <;> cases hgoing
  · next attempt ends outcome hstage =>
    unfold checked at hgoing
    cases outcome with
    | ok value => cases hgoing
    | error e =>
        simp only at hgoing
        split at hgoing
        · next hretry =>
          have hafter := RetryPolicy.afterFailure_retry hretry
          have hroom := Prober.room_of_retry hafter.1
          have hrest : prober.retry.rest ≤ prober.retry.pause := restTime_le _
          refine ⟨_, ?_, (Progress.going.inj hgoing).symm⟩
          rw [hstage]
          exact .retry hafter.2 (Nat.lt_of_le_of_lt (Nat.add_le_add_left hrest now) hroom)
        · cases hgoing

/-- A move that ends a probe ends it with a finding of its stage. -/
theorem resume_done {prober : Prober} {p : Probe} {now : Instant} {h : Handle δ} {env : Env}
    {finding : Finding} (hdone : (p.resume prober now h env).progress = .done finding) :
    Stage.Ends p.stage finding := by
  unfold resume at hdone
  split at hdone
  · next attempt time hstage =>
    unfold Probe.begin at hdone
    split at hdone <;> cases hdone
  · next ends outcome hstage =>
    rw [hstage]
    unfold diagnosed at hdone
    cases outcome with
    | ok d =>
        cases hdone
        exact .diagnosed
    | error e =>
        cases hdone
        exact .undiagnosed
  · next attempt ends outcome hstage =>
    rw [hstage]
    unfold checked at hdone
    cases outcome with
    | ok value =>
        cases hdone
        exact .answered
    | error e =>
        simp only at hdone
        split at hdone
        · cases hdone
        · cases hdone
          exact .gaveUp

/-- Every move leaves a probe with fewer moves to make. -/
theorem movesLeft_resume_lt {prober : Prober} {p q : Probe} {now : Instant} {h : Handle δ}
    {env : Env} (hgoing : (p.resume prober now h env).progress = .going q) :
    q.movesLeft prober < p.movesLeft prober := by
  obtain ⟨stage, hnext, rfl⟩ := resume_going hgoing
  obtain ⟨name, handle, started, deadline, before⟩ := p
  cases hnext with
  | diagnose => simp [movesLeft]
  | check => simp [movesLeft]
  | retry hleft hroom =>
      simp only [movesLeft]
      omega

/-- A probe under way has at least one move to make. -/
theorem movesLeft_pos (prober : Prober) (p : Probe) : 0 < p.movesLeft prober := by
  unfold movesLeft
  split <;> omega

/-! ## Bounds -/

/-- A probe that is on time at `now`, of one of the first `handles`
dependencies: it wakes neither in the past nor after its deadline, unless that
was over when the probe began. -/
structure Sound (prober : Prober) (handles : Nat) (now : Instant) (p : Probe) : Prop where
  handle_lt : p.handle < handles
  started_le : p.started ≤ now
  now_le_wake : now ≤ p.wake
  wake_le : p.wake ≤ max p.started p.deadline
  deadline_le : p.deadline ≤ p.started + prober.ceiling

/-- A probe that begins is on time. -/
theorem Sound.start {prober : Prober} {handles : Nat} {now : Instant} {handle : Nat}
    (name : String) (deadline : Instant) (hhandle : handle < handles) :
    Sound prober handles now (.start prober name handle deadline now) where
  handle_lt := hhandle
  started_le := Nat.le_refl _
  now_le_wake := Nat.le_refl _
  wake_le := Nat.le_max_left _ _
  deadline_le := Nat.min_le_right _ _

variable {prober : Prober} {handles : Nat} {now : Instant} {p q : Probe}

/-- More dependencies make no difference. -/
theorem Sound.mono {more : Nat} (hp : Sound prober handles now p) (hle : handles ≤ more) :
    Sound prober more now p :=
  { hp with handle_lt := Nat.lt_of_lt_of_le hp.handle_lt hle }

/-- Time can pass up to the moment at which the probe has something to do. -/
theorem Sound.wait {time : Instant} (hp : Sound prober handles now p)
    (hfrom : now ≤ time) (hto : time ≤ p.wake) : Sound prober handles time p :=
  { hp with started_le := Nat.le_trans hp.started_le hfrom, now_le_wake := hto }

/-- A probe never has to wait longer than the ceiling allows. -/
theorem Sound.now_le (hp : Sound prober handles now p) : now ≤ max p.started p.deadline :=
  Nat.le_trans hp.now_le_wake hp.wake_le

/-- A probe that was on time still is after its move. -/
theorem Sound.resume {h : Handle δ} {env : Env} (hp : Sound prober handles now p)
    (hgoing : (p.resume prober now h env).progress = .going q) :
    Sound prober handles now q := by
  have hnow := hp.now_le
  obtain ⟨stage, hnext, rfl⟩ := resume_going hgoing
  obtain ⟨name, handle, started, deadline, before⟩ := p
  cases hnext with
  | diagnose _ hfrom hto =>
      exact { hp with now_le_wake := hfrom, wake_le := by grind [wake] }
  | check _ hfrom hto =>
      exact { hp with now_le_wake := hfrom, wake_le := by grind [wake] }
  | retry _ hroom =>
      exact { hp with now_le_wake := Nat.le_add_right _ _, wake_le := by grind [wake] }

end Probe

end HealthWatch
