import HealthWatch.Proofs.ServiceRuns

/-!
# What holds of every probe

A probe is begun by a task and goes on by its own moves only.  So what holds of every probe that
begins, and is kept by every move of a probe, holds of all probes of a run (`EveryProbe.run`).
-/

namespace HealthWatch

/-- All probes of a job have a property. -/
def Job.EveryProbe (P : Probe → Prop) : Job → Prop
  | .probing p => P p
  | .reporting _ g => ∀ p, Lane.running p ∈ g.lanes → P p
  | .ticking (.cycling _ g) => ∀ p, Lane.running p ∈ g.lanes → P p
  | _ => True

namespace Service

variable {δ Env : Type} {P : Probe → Prop}

/-- All probes under way have a property. -/
def EveryProbe (P : Probe → Prop) (s : Service δ Env) : Prop :=
  ∀ (id : Nat) (span : Option Span) (job : Job),
    s.tasks[id]? = some (.running span job) → job.EveryProbe P

/-- All lanes of a report that begins are probes that begin. -/
theorem start_everyProbe {prober : Prober} {now : Instant}
    (hstart : ∀ name handle deadline, P (.start prober name handle deadline now))
    (registry : Registry) (deadline : Instant) :
    ∀ p, Lane.running p ∈ (Gathering.start prober registry deadline now).lanes → P p := by
  intro p hp
  obtain ⟨e, _, heq⟩ := List.mem_map.mp hp
  cases heq
  exact hstart e.1 e.2 deadline

variable [Dependency δ Env] {s : Service δ Env}

omit [Dependency δ Env] in
theorem Begins.everyProbe {a : Action δ} {span : Option Span} {job : Job}
    (hbegins : Begins s a (.running span job))
    (hstart : ∀ name handle deadline now, P (.start s.prober name handle deadline now)) :
    job.EveryProbe P := by
  have hgathering := start_everyProbe (fun name handle deadline =>
    hstart name handle deadline s.now) s.registry
  cases hbegins with
  | probe hname => exact hstart _ _ _ _
  | report deadline => exact hgathering deadline
  | cycle => exact hgathering _
  | request => exact hgathering _
  | connect => trivial
  | closing => trivial
  | ticker => trivial

theorem LaneMove.everyProbe {g g' : Gathering} (hmove : LaneMove s g g')
    (hresume : ∀ p now (h : Handle δ) env q, P p →
      (p.resume s.prober now h env).progress = .going q → P q)
    (hg : ∀ p, Lane.running p ∈ g.lanes → P p) : ∀ p, Lane.running p ∈ g'.lanes → P p := by
  cases hmove with
  | rest => exact hg
  | @move n p h hlane hdue hhandle =>
      intro q hq
      rcases List.mem_or_eq_of_mem_set hq with hold | hnew
      · exact hg q hold
      · have hp := hg p (List.mem_of_getElem? hlane)
        cases hprogress : (p.resume s.prober s.now h s.env).progress with
        | going r =>
            rw [hprogress] at hnew
            obtain rfl : q = r := Lane.running.inj hnew
            exact hresume p _ _ _ q hp hprogress
        | done finding =>
            rw [hprogress] at hnew
            cases hnew

theorem JobMove.everyProbe {span span' : Option Span} {job job' : Job}
    (hmove : JobMove s span job (.running span' job'))
    (hstart : ∀ name handle deadline now, P (.start s.prober name handle deadline now))
    (hresume : ∀ p now (h : Handle δ) env q, P p →
      (p.resume s.prober now h env).progress = .going q → P q)
    (hjob : job.EveryProbe P) : job'.EveryProbe P := by
  generalize htask : Task.running span' job' = task at hmove
  cases hmove with
  | rest => cases htask; exact hjob
  | @probe p h hdue hhandle =>
      cases hprogress : (p.resume s.prober s.now h s.env).progress with
      | going q =>
          rw [hprogress] at htask
          cases htask
          exact hresume p _ _ _ q hjob hprogress
      | done finding =>
          rw [hprogress] at htask
          cases htask
  | lane hlane => cases htask; exact hlane.everyProbe hresume hjob
  | closed => cases htask; trivial
  | closeNext => cases htask; trivial
  | started => cases htask; trivial
  | tick =>
      cases htask
      exact start_everyProbe (fun name handle deadline => hstart name handle deadline s.now) _ _
  | cycleLane hlane => cases htask; exact hlane.everyProbe hresume hjob
  | cycle => cases htask; trivial
  | _ => cases htask

/-- **One action.**  Every probe after an action was there before, or begins, or has made a
move. -/
theorem EveryProbe.act (h : s.EveryProbe P)
    (hstart : ∀ name handle deadline now, P (.start s.prober name handle deadline now))
    (hresume : ∀ p now (h : Handle δ) env q, P p →
      (p.resume s.prober now h env).progress = .going q → P q) (a : Action δ) :
    (s.act a).EveryProbe P := by
  intro id span job hid
  rcases running_act hid with hid' | hbegins | ⟨span', job', hid', hmove⟩
  · exact h id span job hid'
  · exact hbegins.everyProbe hstart
  · exact hmove.everyProbe hstart hresume (h id span' job' hid')

theorem EveryProbe.run (h : s.EveryProbe P)
    (hstart : ∀ name handle deadline now, P (.start s.prober name handle deadline now))
    (hresume : ∀ p now (h : Handle δ) env q, P p →
      (p.resume s.prober now h env).progress = .going q → P q) (actions : List (Action δ)) :
    (s.run actions).EveryProbe P := by
  induction actions generalizing s with
  | nil => exact h
  | cons a actions ih =>
      have hprober := (Continues.act s a).prober
      refine ih (h.act hstart hresume a) ?_ ?_
      · rwa [hprober]
      · rwa [hprober]

end Service

end HealthWatch
