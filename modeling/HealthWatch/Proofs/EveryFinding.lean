import HealthWatch.Proofs.ReportsUnderWay

/-!
# What holds of every finding

A lane finds what the last move of its probe comes to, and a report holds what its lanes found.
So what holds of everything that a probe can end with holds of every entry of every report that
is made in a run (`Reachable.reported`).
-/

namespace HealthWatch

/-- What a lane has found, if anything, has a property. -/
def Lane.Found (P : Finding → Prop) : Lane → Prop
  | .running _ => True
  | .finished _ result => P result.finding

namespace Service

variable {δ Env : Type} [Dependency δ Env] {P : Finding → Prop} {s : Service δ Env}

/-- What the reports under way have found so far has a property. -/
def EveryFinding (P : Finding → Prop) (s : Service δ Env) : Prop :=
  ∀ id g, s.gathering? id = some g → ∀ lane ∈ g.lanes, lane.Found P

theorem LaneMove.found {g g' : Gathering} (hmove : LaneMove s g g')
    (hends : ∀ stage f, Probe.Stage.Ends stage f → P f) (hg : ∀ lane ∈ g.lanes, lane.Found P) :
    ∀ lane ∈ g'.lanes, lane.Found P := by
  cases hmove with
  | rest => exact hg
  | @move n p h hlane hdue hhandle =>
      intro lane hmem
      rcases List.mem_or_eq_of_mem_set hmem with hold | rfl
      · exact hg lane hold
      · cases hprogress : (p.resume s.prober s.now h s.env).progress with
        | going q => trivial
        | done finding => exact hends _ _ (Probe.resume_done hprogress)

/-- **One action.**  A report that begins has found nothing, and one that goes on has found what
its lanes end with. -/
theorem EveryFinding.act (h : s.EveryFinding P)
    (hends : ∀ stage f, Probe.Stage.Ends stage f → P f) (a : Action δ) :
    (s.act a).EveryFinding P := by
  intro id g hg
  rcases gathering?_act hg with hsame | ⟨deadline, rfl⟩ | ⟨g₀, hg₀, hmove⟩
  · exact h id g hsame
  · intro lane hlane
    obtain ⟨e, _, rfl⟩ := List.mem_map.mp hlane
    trivial
  · exact hmove.found hends (h id g₀ hg₀)

theorem Reachable.everyFinding (hs : s.Reachable)
    (hends : ∀ stage f, Probe.Stage.Ends stage f → P f) : s.EveryFinding P := by
  induction hs with
  | @fresh s hfresh =>
      intro id g hg
      obtain ⟨span, job, hid, _⟩ := gathering?_eq_some_iff.mp hg
      rw [hfresh.tasks] at hid
      cases hid
  | act _ a ih => exact ih.act hends a

/-- A report that is made by an action holds what was found. -/
theorem EveryFinding.made (h : s.EveryFinding P) {a : Action δ} {r : Report}
    (hr : .report r ∈ changes s.endings s.tasks (s.act a).tasks) :
    ∀ e ∈ r.dependencies.entries, P e.2.finding := by
  obtain ⟨id, task, task', hid, hid', hr⟩ := mem_changes hr
  rcases act_getElem? hid a with
    hsame | ⟨part, span, job, moved, _, rfl, hafter, hmoved⟩ | ⟨_, hdrop⟩
  · cases hsame.symm.trans hid'
    rw [s.endings_ofMoves.same] at hr
    cases hr
  · cases hafter.symm.trans hid'
    obtain ⟨g, results, hjob, hresults, rfl⟩ := hmoved.move.report_of_endings hr
    have hlanes := h id g (gathering?_eq_some_iff.mpr ⟨span, job, hid, hjob⟩)
    rw [Gathering.results?_eq_some_iff.mp hresults] at hlanes
    exact fun e he => hlanes _ (List.mem_map_of_mem (NameMap.mem_of_mem_ofList he))
  · cases hdrop.symm.trans hid'
    rw [s.endings_ofMoves.dropped] at hr
    cases hr

/-- **All reports of a run** hold only what a probe can end with. -/
theorem Reachable.reported (hs : s.Reachable)
    (hends : ∀ stage f, Probe.Stage.Ends stage f → P f) {actions : List (Action δ)} {r : Report}
    (hr : .report r ∈ observed endings s actions) :
    ∀ e ∈ r.dependencies.entries, P e.2.finding := by
  induction actions generalizing s with
  | nil => cases hr
  | cons a actions ih =>
      rcases List.mem_append.mp hr with hr | hr
      · exact (hs.everyFinding hends).made hr
      · exact ih (hs.act a) hr

end Service

end HealthWatch
