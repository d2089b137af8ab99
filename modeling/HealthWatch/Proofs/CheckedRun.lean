import HealthWatch.Proofs.EveryProbe
import HealthWatch.Service.Checked

/-!
# Runs on a machine

A service needs results of a machine's arithmetic only for what its settings add to the time,
for the attempts of its probes, and for the sizes of its reports.  If the clock has room for the
settings (`HasRoom`) and no attempt is beyond those allowed (`Probe.Counted`), then an action on
a machine is the action (`act?_eq`).  The attempts stay within those allowed, and a clock that
has room at the end of a run had it all the time, so a whole run on a machine is the run
(`run?_eq`).
-/

namespace HealthWatch

/-- No more dependencies are healthy than there are. -/
theorem Report.healthyCount_le (r : Report) : r.healthyCount ≤ r.total := by
  have hfilter : r.healthyCount ≤ r.dependencies.values.length := List.length_filter_le _ _
  rwa [NameMap.values, List.length_map] at hfilter

/-- What is left of the dependencies of a report is not less than none. -/
theorem Report.unhealthyCount?_eq (r : Report) : r.unhealthyCount? = some r.unhealthyCount :=
  if_pos r.healthyCount_le

/-- A machine counts the attempts up to one that 32 bits hold. -/
theorem RetryPolicy.next?_eq {attempt most : Nat} (hlt : attempt < most)
    (hmost : most < Nat.pow 2 32) :
    next? attempt = some (attempt + 1) :=
  if_pos (by omega)

/-! ## The attempts of a probe -/

/-- A probe makes no attempt beyond those that are allowed. -/
def Probe.Counted (prober : Prober) (p : Probe) : Prop :=
  match p.stage with
  | .due attempt _ | .checking attempt _ _ => 1 ≤ attempt ∧ attempt ≤ prober.retry.maxAttempts
  | .diagnosing .. => True

theorem Probe.Counted.start (prober : Prober) (name : String) (handle : Nat)
    (deadline now : Instant) : Counted prober (.start prober name handle deadline now) :=
  ⟨Nat.le_refl 1, prober.retry.maxAttempts_pos⟩

theorem Probe.Counted.resume {δ Env : Type} [Dependency δ Env] {prober : Prober} {p q : Probe}
    {now : Instant} {h : Handle δ} {env : Env} (hp : p.Counted prober)
    (hgoing : (p.resume prober now h env).progress = .going q) : q.Counted prober := by
  obtain ⟨stage, hnext, rfl⟩ := resume_going hgoing
  obtain ⟨name, handle, started, deadline, before⟩ := p
  cases hnext with
  | diagnose => trivial
  | check => exact hp
  | retry hleft => exact ⟨Nat.le_add_left 1 _, hleft⟩

/-! ## A clock with room -/

/-- A clock that at `now` has room for all that a service adds to the time, and a number of
attempts that can be counted. -/
structure Clock.HasRoom (clock : Clock) (now : Instant) (prober : Prober) (ticker : Ticker) :
    Prop where
  ceiling : clock.later? now prober.ceiling = some (now + prober.ceiling)
  pause : clock.later? now prober.retry.pause = some (now + prober.retry.pause)
  budget : clock.later? now ticker.budget = some (now + ticker.budget)
  interval : clock.later? now ticker.interval = some (now + ticker.interval)
  period : ticker.interval ≠ 0
  attempts : prober.retry.maxAttempts < Nat.pow 2 32

variable {clock : Clock} {now : Instant} {prober : Prober} {ticker : Ticker}

theorem Clock.HasRoom.tick (h : clock.HasRoom now prober ticker) :
    clock.tick? now ticker.interval = some (now + ticker.interval) := by
  rw [tick?, if_neg h.period, h.interval]

/-- Of a ticker only the interval matters. -/
theorem Clock.HasRoom.congr {ticker' : Ticker} (h : clock.HasRoom now prober ticker)
    (hinterval : ticker'.interval = ticker.interval) : clock.HasRoom now prober ticker' := by
  have hbudget : ticker'.budget = ticker.budget := by rw [Ticker.budget, hinterval, Ticker.budget]
  constructor
  case ceiling => exact h.ceiling
  case pause => exact h.pause
  case budget => rw [hbudget, h.budget]
  case interval => rw [hinterval, h.interval]
  case period => rw [hinterval]; exact h.period
  case attempts => exact h.attempts

/-! ## Probes -/

theorem Prober.decide?_eq (h : clock.HasRoom now prober ticker) (deadline : Instant)
    (e : DependencyError) :
    prober.decide? clock deadline now e = some (prober.decide deadline now e) := by
  cases e <;> simp [decide?, decide, h.pause]

namespace Probe

theorem start?_eq (h : clock.HasRoom now prober ticker) (name : String) (handle : Nat)
    (deadline : Instant) :
    start? clock prober name handle deadline now =
      some (start prober name handle deadline now) := by
  simp only [start?, h.ceiling]
  rfl

/-- Another attempt can be counted if one is left. -/
theorem checked?_eq (h : clock.HasRoom now prober ticker) (p : Probe) {attempt : Nat}
    (outcome : Except DependencyError Unit) :
    p.checked? clock prober attempt outcome now = some (checked prober p attempt outcome now) := by
  cases outcome with
  | ok value => rfl
  | error e =>
      simp only [checked?, checked, Prober.decide?_eq h, Option.bind_eq_bind, Option.bind_some]
      cases hafter : prober.retry.afterFailure attempt (prober.decide p.deadline now e) e.text with
      | mk told next =>
          cases next with
          | giveUp => rfl
          | retry =>
              have hleft := RetryPolicy.afterFailure_retry (congrArg Prod.snd hafter)
              simp only [RetryPolicy.next?_eq hleft.2 h.attempts]
              rfl

theorem resume?_eq {δ Env : Type} [Dependency δ Env] (h : clock.HasRoom now prober ticker)
    (p : Probe) (handle : Handle δ) (env : Env) :
    p.resume? clock prober now handle env = some (p.resume prober now handle env) := by
  cases hstage : p.stage with
  | checking attempt ends outcome =>
      simp only [resume?, resume, hstage, checked?_eq h]
      rfl
  | due attempt time => simp only [resume?, hstage]
  | diagnosing ends outcome => simp only [resume?, hstage]

end Probe

theorem Gathering.start?_eq (h : clock.HasRoom now prober ticker) (registry : Registry)
    (deadline : Instant) :
    start? clock prober registry deadline now = some (start prober registry deadline now) := by
  have hprobe : (fun e : String × Nat => Probe.start? clock prober e.1 e.2 deadline now) =
      fun e => pure (Probe.start prober e.1 e.2 deadline now) :=
    funext fun e => Probe.start?_eq h e.1 e.2 deadline
  have hprobes : (registry.all.mapM fun e => Probe.start? clock prober e.1 e.2 deadline now) =
      some (registry.all.map fun e => Probe.start prober e.1 e.2 deadline now) := by
    rw [hprobe]
    exact List.mapM_pure
  simp only [start?, start, hprobes, Option.bind_eq_bind, Option.bind_some, List.map_map]
  rfl

namespace Service

variable {δ Env : Type} [Dependency δ Env] {s : Service δ Env}

/-- A machine has room for what the service adds to the time now. -/
def HasRoom (clock : Clock) (s : Service δ Env) : Prop := clock.HasRoom s.now s.prober s.ticker

/-! ## Moves -/

theorem moveProbe?_eq (h : s.HasRoom clock) (span : Option Span) (p : Probe) :
    s.moveProbe? clock span p = some (s.moveProbe span p) := by
  unfold moveProbe? moveProbe
  cases s.handles[p.handle]? with
  | none => rfl
  | some handle =>
      simp only [p.resume?_eq h, Option.bind_eq_bind, Option.bind_some]
      cases (p.resume s.prober s.now handle s.env).progress <;> rfl

theorem moveLane?_eq (h : s.HasRoom clock) (span : Option Span) (g : Gathering) (n : Nat) :
    s.moveLane? clock span g n = some (s.moveLane span g n) := by
  unfold moveLane? moveLane
  cases g.lanes[n]? with
  | none => rfl
  | some lane =>
      cases lane with
      | finished name result => rfl
      | running p =>
          by_cases hdue : p.wake ≤ s.now
          · simp only [if_pos hdue, moveProbe?_eq h, Option.bind_eq_bind, Option.bind_some]
            cases s.moveProbe span p with
            | mk s' progress => cases progress <;> rfl
          · simp only [if_neg hdue]

omit [Dependency δ Env] in
theorem finishCycle?_eq (s : Service δ Env) (span : Option Span) (r : Report) :
    s.finishCycle? span r = some (s.finishCycle span r) := by
  simp only [finishCycle?, r.unhealthyCount?_eq]
  rfl

omit [Dependency δ Env] in
theorem serveReport?_eq (s : Service δ Env) (span : Option Span) (purpose : Purpose)
    (r : Report) : s.serveReport? span purpose r = some (s.serveReport span purpose r) := by
  cases purpose with
  | report => rfl
  | cycle => exact finishCycle?_eq s span r
  | request => rfl

omit [Dependency δ Env] in
theorem startLoop?_eq (h : s.HasRoom clock) (id : Nat) :
    s.startLoop? clock id = some (s.startLoop id) := by
  unfold startLoop? startLoop
  rw [if_neg h.period, h.tick]
  rfl

omit [Dependency δ Env] in
theorem moveLoop?_eq (h : s.HasRoom clock) (id : Nat) (l : Loop) :
    s.moveLoop? clock id l = some (s.moveLoop id l) := by
  cases l with
  | starting => exact startLoop?_eq h id
  | idle next =>
      by_cases hdue : next ≤ s.now
      · simp only [moveLoop?, moveLoop, if_pos hdue, h.interval, h.budget,
          Gathering.start?_eq h]
        rfl
      · simp only [moveLoop?, moveLoop, if_neg hdue]
  | cycling next g =>
      simp only [moveLoop?, moveLoop]
      cases g.results? with
      | none => rfl
      | some results =>
          simp only [finishCycle?_eq]
          rfl

theorem moveJob?_eq (h : s.HasRoom clock) (id : Nat) (span : Option Span) (job : Job)
    (part : Part) : s.moveJob? clock id span job part = some (s.moveJob id span job part) := by
  cases job with
  | probing p =>
      cases part with
      | lane n => rfl
      | signal => rfl
      | whole =>
          by_cases hdue : p.wake ≤ s.now
          · simp only [moveJob?, moveJob, if_pos hdue, moveProbe?_eq h, Option.bind_eq_bind,
              Option.bind_some]
            cases s.moveProbe span p with
            | mk s' progress => cases progress <;> rfl
          · simp only [moveJob?, moveJob, if_neg hdue]
  | reporting purpose g =>
      cases part with
      | lane n =>
          simp only [moveJob?, moveJob, moveLane?_eq h]
          rfl
      | signal => rfl
      | whole =>
          simp only [moveJob?, moveJob]
          cases g.results? with
          | none => rfl
          | some results =>
              simp only [serveReport?_eq]
              rfl
  | connecting handle call => cases part <;> rfl
  | closing c => cases part <;> rfl
  | ticking l =>
      cases part with
      | lane n =>
          cases l with
          | starting => rfl
          | idle next => rfl
          | cycling next g =>
              simp only [moveJob?, moveJob, moveLane?_eq h]
              rfl
      | signal => cases l <;> rfl
      | whole =>
          have hloop := moveLoop?_eq h id l
          cases l <;> exact hloop

/-! ## Actions -/

omit [Dependency δ Env] in
theorem beginGathering?_eq (h : s.HasRoom clock) (span : Option Span) (purpose : Purpose)
    (deadline : Instant) : s.beginGathering? clock span purpose deadline =
      some (s.spawn span (.reporting purpose (.start s.prober s.registry deadline s.now))) := by
  simp only [beginGathering?, Gathering.start?_eq h]
  rfl

/-- **One action.**  A machine that has room does what the action does. -/
theorem act?_eq (h : s.HasRoom clock) (a : Action δ) : s.act? clock a = some (s.act a) := by
  cases a with
  | beginProbe name deadline =>
      simp only [act?, act, beginProbe]
      cases s.registry.get? name with
      | none => rfl
      | some handle =>
          simp only [Probe.start?_eq h]
          rfl
  | beginReport deadline => exact beginGathering?_eq h none .report deadline
  | beginCycle =>
      simp only [act?, h.budget]
      exact beginGathering?_eq h none .cycle _
  | beginRequest =>
      have htold : (s.tell (some .request) [.healthRequested]).HasRoom clock := h
      simp only [act?, h.ceiling]
      exact beginGathering?_eq htold (some .request) .request _
  | move id part =>
      simp only [act?, act, move?, move]
      cases s.tasks[id]? with
      | none => rfl
      | some task =>
          cases task with
          | running span job => exact moveJob?_eq h id span job part
          | ended time outcome => rfl
          | dropped => rfl
  | _ => rfl

/-- **A whole run** on a machine that has room up to its end is the run. -/
theorem run?_eq {actions : List (Action δ)}
    (h : ∀ time ≤ (s.run actions).now, clock.HasRoom time s.prober s.ticker) :
    s.run? clock actions = some (s.run actions) := by
  induction actions generalizing s with
  | nil => rfl
  | cons a actions ih =>
      have hnow : s.now ≤ (s.run (a :: actions)).now := (Continues.run s (a :: actions)).now_le
      have hact : s.act? clock a = some (s.act a) := act?_eq (h s.now hnow) a
      have hcontinues := Continues.act s a
      have hrest : (s.act a).run? clock actions = some ((s.act a).run actions) := by
        refine ih fun time htime => ?_
        rw [hcontinues.prober]
        exact (h time htime).congr hcontinues.interval
      rw [run?, List.foldlM_cons, hact]
      exact hrest

end Service

end HealthWatch
