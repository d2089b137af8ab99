import HealthWatch.Proofs.ProbeStages

/-!
# The attempts of a probe

What a probe does depends only on when it begins, on its deadline and its settings, and on how
its calls are answered.  A call lasts until it is answered, or until the deadline if the answer
is late (`Attempt.Within`).  A probe of a dependency with diagnostics makes one call.  Any other
makes `Attempts`: after each one that is worth another a rest, and then the next, as long as
one is left.

`Stage.GoesOn` says what a probe still does from a stage on, down to the instant at which it
ends and what it finds.  One move of a probe leaves it at a stage from which it goes on in the
same way (`goesOn_resume`); so what it does from its first stage on is what it does at all.
-/

namespace HealthWatch

/-- Whether it may be otherwise the next time: not if the call was cut off, and not if the
dependency is closed. -/
def DependencyError.isTransient : DependencyError → Bool
  | .deadlineExceeded _ | .closed => false
  | _ => true

/-- A failure is worth another attempt that may end otherwise and that has room. -/
theorem Prober.decide_eq_retry_iff {p : Prober} {deadline now : Instant} {e : DependencyError} :
    p.decide deadline now e = .retry ↔
      e.isTransient = true ∧ now + p.retry.pause < deadline := by
  cases e <;> simp [Prober.decide, DependencyError.isTransient]

/-- Another attempt follows if the error is worth one and one is left. -/
theorem RetryPolicy.afterFailure_eq_retry_iff {p : RetryPolicy} {attempt : Nat}
    {decision : Decision} {error : String} :
    (p.afterFailure attempt decision error).2 = .retry ↔
      decision = .retry ∧ attempt < p.maxAttempts := by
  refine ⟨RetryPolicy.afterFailure_retry, ?_⟩
  rintro ⟨rfl, hmore⟩
  simp [RetryPolicy.afterFailure, Nat.not_le_of_lt hmore]

namespace Probe

/-! ## Calls and how they end -/

/-- A call that a probe makes: when it begins, how the dependency is going to answer, and when
and how the call ends for the probe. -/
structure Attempt (α : Type) where
  begins : Instant
  reply : Reply α
  ends : Instant
  outcome : Except DependencyError α

namespace Attempt

variable {α : Type} {started deadline : Instant}

/-- A call of a probe that began at `started` counts if it is answered at once or by the
deadline.  Otherwise it is cut off at the deadline, or at once if that is over. -/
inductive Within (started deadline : Instant) : Attempt α → Prop
  | answered {begins : Instant} {wait : Nat} {outcome : Except DependencyError α}
      (hin : wait = 0 ∨ begins + wait ≤ deadline) :
      Within started deadline ⟨begins, .after wait outcome, begins + wait, outcome⟩
  | late {begins : Instant} {wait : Nat} {outcome : Except DependencyError α}
      (hwait : wait ≠ 0) (hlate : deadline < begins + wait) :
      Within started deadline ⟨begins, .after wait outcome, max begins deadline,
        .error (.deadlineExceeded (.ofMillis (max begins deadline - started)))⟩
  | silent {begins : Instant} :
      Within started deadline ⟨begins, .never, max begins deadline,
        .error (.deadlineExceeded (.ofMillis (max begins deadline - started)))⟩

/-- Calls are waited for in this way. -/
theorem within_of_reply (started deadline now : Instant) (reply : Reply α) :
    Within started deadline ⟨now, reply, (reply.within started deadline now).1,
      (reply.within started deadline now).2⟩ := by
  cases reply with
  | never => exact .silent
  | after wait outcome =>
      simp only [Reply.within]
      split
      · next hin => exact .answered hin
      · next hlate =>
        obtain ⟨hwait, hlate⟩ := not_or.mp hlate
        exact .late hwait (Nat.lt_of_not_le hlate)

variable {a b : Attempt α}

theorem Within.begins_le_ends (h : a.Within started deadline) : a.begins ≤ a.ends := by
  cases h with
  | answered => exact Nat.le_add_right _ _
  | late => exact Nat.le_max_left _ _
  | silent => exact Nat.le_max_left _ _

theorem Within.ends_le (h : a.Within started deadline) : a.ends ≤ max a.begins deadline := by
  cases h with
  | @answered begins wait outcome hin =>
      rcases hin with rfl | hin
      · exact Nat.le_max_left _ _
      · exact Nat.le_trans hin (Nat.le_max_right _ _)
  | late => exact Nat.le_refl _
  | silent => exact Nat.le_refl _

/-- How a call ends follows from when it begins and how it is answered. -/
theorem Within.eq_within (h : a.Within started deadline) :
    a.reply.within started deadline a.begins = (a.ends, a.outcome) := by
  cases h with
  | answered hin => simp [Reply.within, hin]
  | late hwait hlate => simp [Reply.within, Reply.cutOff, hwait, Nat.not_le_of_lt hlate]
  | silent => rfl

theorem Within.unique (ha : a.Within started deadline) (hb : b.Within started deadline)
    {begins : Instant} (hbegins : a.begins = begins) (hbegins' : b.begins = begins)
    (hreply : a.reply = b.reply) : a = b := by
  subst hbegins'
  have hends := ha.eq_within
  rw [hbegins, hreply, hb.eq_within] at hends
  obtain ⟨begins, reply, ends, outcome⟩ := a
  cases hbegins
  cases hreply
  cases hends
  rfl

end Attempt

/-- What a check finds. -/
def checkFinding : Except DependencyError Unit → Finding
  | .ok _ => .healthy none none
  | .error e => .unhealthy e.text none

/-- What a probe that began at `started` finds by diagnostics that ended at `ends`. -/
def diagnosis (started ends : Instant) : Except DependencyError Diagnostics → Finding
  | .ok d => .healthy (some d.uptime) (some d.latency)
  | .error e => .unhealthy e.text (some (Duration.ofMillis (ends - started)).toMillis)

/-- Whether what a check came to at `ends` is worth another one: it failed, the next one may
end otherwise, and that could be answered before the deadline. -/
def Worth (prober : Prober) (deadline ends : Instant) (outcome : Except DependencyError Unit) :
    Prop :=
  ∃ e, outcome = .error e ∧ e.isTransient = true ∧ ends + prober.retry.pause < deadline

/-- The attempts that are made from `begins` on, of which `left` may follow the first, and the
last of them: the next one begins after a rest if one is left and it is worth it. -/
inductive Attempts (prober : Prober) (started deadline : Instant) :
    (left : Nat) → (begins : Instant) → List (Attempt Unit) → (last : Attempt Unit) → Prop
  | last {left : Nat} {begins : Instant} {a : Attempt Unit} (hbegins : a.begins = begins)
      (hwithin : a.Within started deadline)
      (hends : left = 0 ∨ ¬ Worth prober deadline a.ends a.outcome) :
      Attempts prober started deadline left begins [a] a
  | next {left : Nat} {begins : Instant} {a last : Attempt Unit} {rest : List (Attempt Unit)}
      (hbegins : a.begins = begins) (hwithin : a.Within started deadline)
      (hworth : Worth prober deadline a.ends a.outcome)
      (hrest : Attempts prober started deadline left (a.ends + prober.retry.rest) rest last) :
      Attempts prober started deadline (left + 1) begins (a :: rest) last

namespace Attempts

variable {prober : Prober} {started deadline : Instant} {left : Nat} {begins : Instant}
  {attempts : List (Attempt Unit)} {last : Attempt Unit}

theorem begins_le_ends (h : Attempts prober started deadline left begins attempts last) :
    begins ≤ last.ends := by
  induction h with
  | last hbegins hwithin hends => exact hbegins ▸ hwithin.begins_le_ends
  | next hbegins hwithin hworth hrest ih =>
      have hends := hwithin.begins_le_ends
      rw [hbegins] at hends
      exact Nat.le_trans hends (Nat.le_trans (Nat.le_add_right _ _) ih)

/-- After an attempt that is worth another the next one begins before the deadline. -/
theorem next_lt {ends : Instant} {outcome : Except DependencyError Unit}
    (hworth : Worth prober deadline ends outcome) : ends + prober.retry.rest < deadline := by
  obtain ⟨_, _, _, hroom⟩ := hworth
  have hrest : prober.retry.rest ≤ prober.retry.pause := restTime_le _
  exact Nat.lt_of_le_of_lt (Nat.add_le_add_left hrest ends) hroom

/-- The last attempt ends by the deadline, unless that was over at the beginning. -/
theorem ends_le (h : Attempts prober started deadline left begins attempts last) :
    last.ends ≤ max begins deadline := by
  induction h with
  | last hbegins hwithin hends => exact hbegins ▸ hwithin.ends_le
  | next hbegins hwithin hworth hrest ih =>
      have hnext := next_lt hworth
      rw [Nat.max_eq_right (Nat.le_of_lt hnext)] at ih
      exact Nat.le_trans ih (Nat.le_max_right _ _)

/-- If the first attempt begins before the deadline, all do. -/
theorem all_begins_lt (h : Attempts prober started deadline left begins attempts last)
    (hlt : begins < deadline) : ∀ a ∈ attempts, a.begins < deadline := by
  induction h with
  | last hbegins hwithin hends => simpa [hbegins] using hlt
  | next hbegins hwithin hworth hrest ih =>
      exact List.forall_mem_cons.mpr ⟨hbegins ▸ hlt, ih (next_lt hworth)⟩

/-- No attempt but the first begins at the deadline or after it. -/
theorem begins_lt (h : Attempts prober started deadline left begins attempts last) :
    ∀ a ∈ attempts.tail, a.begins < deadline := by
  cases h with
  | last => simp
  | next hbegins hwithin hworth hrest => exact hrest.all_begins_lt (next_lt hworth)

theorem getLast?_eq (h : Attempts prober started deadline left begins attempts last) :
    attempts.getLast? = some last := by
  induction h with
  | last => rfl
  | next hbegins hwithin hworth hrest ih => rw [List.getLast?_cons, ih, Option.getD_some]

/-- The attempts follow from the answers. -/
theorem unique {attempts₂ : List (Attempt Unit)} {last₂ : Attempt Unit}
    (h : Attempts prober started deadline left begins attempts last)
    (h₂ : Attempts prober started deadline left begins attempts₂ last₂)
    (halike : ∀ (i : Nat) (a b : Attempt Unit), attempts[i]? = some a → attempts₂[i]? = some b →
      a.reply = b.reply) : attempts = attempts₂ ∧ last = last₂ := by
  induction h generalizing attempts₂ last₂ with
  | last hbegins hwithin hends =>
      cases h₂ with
      | last hbegins' hwithin' =>
          obtain rfl := hwithin.unique hwithin' hbegins hbegins' (halike 0 _ _ rfl rfl)
          exact ⟨rfl, rfl⟩
      | next hbegins' hwithin' hworth =>
          obtain rfl := hwithin.unique hwithin' hbegins hbegins' (halike 0 _ _ rfl rfl)
          exact absurd hworth (hends.resolve_left (Nat.succ_ne_zero _))
  | next hbegins hwithin hworth hrest ih =>
      cases h₂ with
      | last hbegins' hwithin' hends =>
          obtain rfl := hwithin.unique hwithin' hbegins hbegins' (halike 0 _ _ rfl rfl)
          exact absurd hworth (hends.resolve_left (Nat.succ_ne_zero _))
      | next hbegins' hwithin' _ hrest' =>
          obtain rfl := hwithin.unique hwithin' hbegins hbegins' (halike 0 _ _ rfl rfl)
          obtain ⟨rfl, rfl⟩ := ih hrest' fun i => halike (i + 1)
          exact ⟨rfl, rfl⟩

end Attempts

/-! ## From stage to stage -/

/-- A call that a dependency is asked, when, and how it is going to answer. -/
inductive Question where
  | check (time : Instant) (reply : Reply Unit)
  | details (time : Instant) (reply : Reply Diagnostics)

/-- The check that an attempt makes. -/
def Attempt.question (a : Attempt Unit) : Question := .check a.begins a.reply

section

variable {δ Env : Type} [Dependency δ Env]

/-- What a move of a probe asks its dependency. -/
def asks (p : Probe) (now : Instant) (h : Handle δ) (env : Env) : List Question :=
  match p.stage with
  | .due .. =>
    if Dependency.hasDetails h.dependency then [.details now (h.details now env).1]
    else [.check now (h.check now env).1]
  | _ => []

/-- A move asks as often as it calls the dependency. -/
theorem asks_tally (prober : Prober) (p : Probe) (now : Instant) (h : Handle δ) (env : Env) :
    let after := (p.resume prober now h env).handle.tally
    after.checks + after.details =
      h.tally.checks + h.tally.details + (p.asks now h env).length := by
  cases hstage : p.stage with
  | due attempt time =>
      simp only [resume, asks, hstage, Probe.begin]
      split
      · exact (Nat.add_assoc _ _ _).symm
      · exact Nat.add_right_comm _ _ _
  | diagnosing ends outcome =>
      simp only [resume, asks, hstage]
      rfl
  | checking attempt ends outcome =>
      simp only [resume, asks, hstage]
      rfl

end

/-- How a probe goes on from a stage: what it asks, when it ends, and what it finds.
`detailed` says whether the dependency tells diagnostics. -/
inductive Stage.GoesOn (prober : Prober) (started deadline : Instant) (detailed : Bool) :
    Stage → List Question → Instant → Finding → Prop
  | details {attempt : Nat} {a : Attempt Diagnostics} {asked : List Question} {time : Instant}
      {finding : Finding} (hdetailed : detailed = true) (hwithin : a.Within started deadline)
      (h : GoesOn prober started deadline detailed (.diagnosing a.ends a.outcome) asked time
        finding) :
      GoesOn prober started deadline detailed (.due attempt a.begins)
        (.details a.begins a.reply :: asked) time finding
  | check {attempt : Nat} {a : Attempt Unit} {asked : List Question} {time : Instant}
      {finding : Finding} (hplain : detailed = false) (hwithin : a.Within started deadline)
      (h : GoesOn prober started deadline detailed (.checking attempt a.ends a.outcome) asked
        time finding) :
      GoesOn prober started deadline detailed (.due attempt a.begins) (a.question :: asked) time
        finding
  | diagnosed (ends : Instant) (outcome : Except DependencyError Diagnostics) :
      GoesOn prober started deadline detailed (.diagnosing ends outcome) [] ends
        (diagnosis started ends outcome)
  | retry {attempt : Nat} {ends : Instant} {outcome : Except DependencyError Unit}
      {asked : List Question} {time : Instant} {finding : Finding}
      (hmore : attempt < prober.retry.maxAttempts) (hworth : Worth prober deadline ends outcome)
      (h : GoesOn prober started deadline detailed
        (.due (attempt + 1) (ends + prober.retry.rest)) asked time finding) :
      GoesOn prober started deadline detailed (.checking attempt ends outcome) asked time finding
  | ended {attempt : Nat} {ends : Instant} {outcome : Except DependencyError Unit}
      (hends : attempt < prober.retry.maxAttempts → ¬ Worth prober deadline ends outcome) :
      GoesOn prober started deadline detailed (.checking attempt ends outcome) [] ends
        (checkFinding outcome)

/-- **One move.**  From the stage that a move leads to a probe goes on as from the one before,
and it ends as it was to end. -/
theorem goesOn_resume {δ Env : Type} [Dependency δ Env] (prober : Prober) {p : Probe}
    {now : Instant} (h : Handle δ) (env : Env) (hwake : p.wake = now) :
    let detailed := Dependency.hasDetails h.dependency
    match (p.resume prober now h env).progress with
    | .going q => ∀ asked time finding,
        q.stage.GoesOn prober p.started p.deadline detailed asked time finding →
          p.stage.GoesOn prober p.started p.deadline detailed (p.asks now h env ++ asked) time
            finding
    | .done finding =>
        p.stage.GoesOn prober p.started p.deadline detailed (p.asks now h env) now finding := by
  intro detailed
  subst hwake
  obtain ⟨name, handle, started, deadline, stage⟩ := p
  cases stage with
  | due attempt time =>
      by_cases hdetailed : Dependency.hasDetails h.dependency = true
      · simp only [resume, Probe.begin, asks, if_pos hdetailed]
        intro asked ends finding hgoes
        exact .details hdetailed (Attempt.within_of_reply started deadline time _) hgoes
      · simp only [resume, Probe.begin, asks, if_neg hdetailed]
        intro asked ends finding hgoes
        exact .check (Bool.eq_false_iff.mpr hdetailed)
          (Attempt.within_of_reply started deadline time _) hgoes
  | diagnosing ends outcome =>
      cases outcome with
      | ok d => exact .diagnosed ends (.ok d)
      | error e => exact .diagnosed ends (.error e)
  | checking attempt ends outcome =>
      cases outcome with
      | ok value => exact .ended (fun _ ⟨_, h, _⟩ => by cases h)
      | error e =>
          simp only [resume, checked, wake, asks]
          have hiff : (prober.retry.afterFailure attempt (prober.decide deadline ends e) e.text).2 =
              .retry ↔ Worth prober deadline ends (.error e) ∧
                attempt < prober.retry.maxAttempts := by
            rw [RetryPolicy.afterFailure_eq_retry_iff, Prober.decide_eq_retry_iff]
            simp [Worth]
          cases hnext : (prober.retry.afterFailure attempt (prober.decide deadline ends e)
              e.text).2 with
          | retry =>
              obtain ⟨hworth, hmore⟩ := hiff.mp hnext
              intro asked time finding hgoes
              exact .retry hmore hworth hgoes
          | giveUp =>
              refine .ended fun hmore hworth => ?_
              cases hnext.symm.trans (hiff.mpr ⟨hworth, hmore⟩)

/-- With the attempts that `asked` is about the attempts `before` them are all that a probe
makes, and the last of them ends at `time` with `finding`. -/
def Completes (prober : Prober) (started deadline : Instant) (left : Nat) (begins : Instant)
    (before : List (Attempt Unit)) (asked : List Question) (time : Instant) (finding : Finding) :
    Prop :=
  ∃ attempts last, asked = attempts.map Attempt.question ∧
    Attempts prober started deadline left begins (before ++ attempts) last ∧
    time = last.ends ∧ finding = checkFinding last.outcome

/-- A probe without diagnostics makes attempts, and finds what the last of them comes to. -/
theorem Stage.GoesOn.attempts {prober : Prober} {started deadline : Instant} {stage : Stage}
    {asked : List Question} {time : Instant} {finding : Finding}
    (h : stage.GoesOn prober started deadline false asked time finding) :
    match stage with
    | .due attempt begins =>
      Completes prober started deadline (prober.retry.maxAttempts - attempt) begins [] asked time
        finding
    | .checking attempt ends outcome => ∀ a : Attempt Unit, a.Within started deadline →
        a.ends = ends → a.outcome = outcome →
          Completes prober started deadline (prober.retry.maxAttempts - attempt) a.begins [a]
            asked time finding
    | .diagnosing .. => True := by
  induction h with
  | details hdetailed => cases hdetailed
  | @check attempt a asked time finding hplain hwithin h ih =>
      obtain ⟨attempts, last, rfl, hattempts, htime, hfinding⟩ := ih a hwithin rfl rfl
      exact ⟨a :: attempts, last, rfl, hattempts, htime, hfinding⟩
  | diagnosed => trivial
  | @retry attempt ends outcome asked time finding hmore hworth h ih =>
      rintro a hwithin rfl rfl
      obtain ⟨attempts, last, hasked, hattempts, htime, hfinding⟩ := ih
      have hleft : prober.retry.maxAttempts - attempt =
          prober.retry.maxAttempts - (attempt + 1) + 1 := by omega
      exact ⟨attempts, last, hasked, hleft ▸ .next rfl hwithin hworth hattempts, htime, hfinding⟩
  | @ended attempt ends outcome hends =>
      rintro a hwithin rfl rfl
      refine ⟨[], a, rfl, .last rfl hwithin ?_, rfl, rfl⟩
      rcases Nat.lt_or_ge attempt prober.retry.maxAttempts with hmore | hall
      · exact .inr (hends hmore)
      · exact .inl (Nat.sub_eq_zero_of_le hall)

/-- A probe with diagnostics asks for them once, and finds what they come to. -/
theorem Stage.GoesOn.diagnosis {prober : Prober} {started deadline begins : Instant}
    {attempt : Nat} {asked : List Question} {time : Instant} {finding : Finding}
    (h : (Stage.due attempt begins).GoesOn prober started deadline true asked time finding) :
    ∃ a : Attempt Diagnostics, a.begins = begins ∧ a.Within started deadline ∧
      asked = [.details a.begins a.reply] ∧ time = a.ends ∧
      finding = Probe.diagnosis started a.ends a.outcome := by
  cases h with
  | details hdetailed hwithin h =>
      cases h
      exact ⟨_, rfl, hwithin, rfl, rfl, rfl⟩
  | check hplain => cases hplain

end Probe

end HealthWatch
