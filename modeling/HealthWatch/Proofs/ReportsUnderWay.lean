import HealthWatch.Proofs.MetricsHistory
import HealthWatch.Service.Schedule

/-!
# Reports under way

A task waits for a report if it was asked for one or is a loop in its cycle (`gathering?`).
Whatever it waits for was begun on all that was registered then and has gone on by moves of its
lanes (`gathering?_act`), and when it is made it holds what all of its lanes found
(`JobMove.report_of_endings`).
-/

namespace HealthWatch.Service

variable {δ Env : Type} [Dependency δ Env] {s : Service δ Env} {id : Nat} {span : Option Span}

/-- The report that a job waits for. -/
def jobGathering? : Job → Option Gathering
  | .reporting _ g => some g
  | .ticking (.cycling _ g) => some g
  | _ => none

omit [Dependency δ Env] in
/-- What waits for a report was asked for one, or is a loop in its cycle. -/
theorem of_jobGathering? {job : Job} {g : Gathering} (h : jobGathering? job = some g) :
    (∃ purpose, job = .reporting purpose g) ∨ ∃ next, job = .ticking (.cycling next g) := by
  unfold jobGathering? at h
  split at h
  · next purpose g' =>
    cases h
    exact .inl ⟨purpose, rfl⟩
  · next next' g' =>
    cases h
    exact .inr ⟨next', rfl⟩
  · cases h

/-- The report that a task waits for. -/
def gathering? (s : Service δ Env) (id : Nat) : Option Gathering := (s.job? id).bind jobGathering?

omit [Dependency δ Env] in
theorem gathering?_eq_some_iff {g : Gathering} : s.gathering? id = some g ↔
    ∃ span job, s.tasks[id]? = some (.running span job) ∧ jobGathering? job = some g := by
  unfold gathering? job?
  split
  · next span job hid =>
    rw [hid, Option.bind_some]
    exact ⟨fun hg => ⟨span, job, rfl, hg⟩, fun ⟨_, _, heq, hg⟩ => by cases heq; exact hg⟩
  · next hother => exact iff_of_false (by simp) fun ⟨span, job, hid, _⟩ => hother span job hid

/-- Where a report under way comes from: it was under way, or begins on all that is registered,
or is what a move of a lane made of it. -/
theorem gathering?_act {a : Action δ} {g : Gathering} (hg : (s.act a).gathering? id = some g) :
    s.gathering? id = some g ∨
      (∃ deadline, g = .start s.prober s.registry deadline s.now) ∨
      ∃ g₀, s.gathering? id = some g₀ ∧ LaneMove s g₀ g := by
  obtain ⟨span, job, hid, hjob⟩ := gathering?_eq_some_iff.mp hg
  rcases running_act hid with hsame | hbegins | ⟨span', job', hbefore, hmove⟩
  · exact .inl (gathering?_eq_some_iff.mpr ⟨span, job, hsame, hjob⟩)
  · refine .inr (.inl ?_)
    cases hbegins with
    | report => cases hjob; exact ⟨_, rfl⟩
    | cycle => cases hjob; exact ⟨_, rfl⟩
    | request => cases hjob; exact ⟨_, rfl⟩
    | _ => cases hjob
  · have hwas : ∀ g₀, jobGathering? job' = some g₀ → s.gathering? id = some g₀ := fun g₀ hg₀ =>
      gathering?_eq_some_iff.mpr ⟨span', job', hbefore, hg₀⟩
    generalize htask : Task.running span job = task at hmove
    cases hmove with
    | rest => cases htask; exact .inl (hwas g hjob)
    | @probe p handle =>
        cases hprogress : (p.resume s.prober s.now handle s.env).progress <;>
          rw [hprogress] at htask <;> cases htask
        cases hjob
    | lane hlane => cases htask; cases hjob; exact .inr (.inr ⟨_, hwas _ rfl, hlane⟩)
    | tick => cases htask; cases hjob; exact .inr (.inl ⟨_, rfl⟩)
    | cycleLane hlane => cases htask; cases hjob; exact .inr (.inr ⟨_, hwas _ rfl, hlane⟩)
    | _ => cases htask <;> cases hjob

omit [Dependency δ Env] in
/-- Lanes make no report. -/
theorem report_not_mem_lanes (r : Report) (lanes lanes' : List Lane) :
    .report r ∉ changes Lane.endings lanes lanes' := by
  intro hr
  obtain ⟨_, lane, lane', _, _, hlane⟩ := mem_changes hr
  unfold Lane.endings at hlane
  split at hlane
  · cases List.mem_singleton.mp hlane
  · cases hlane

omit [Dependency δ Env] in
theorem eq_of_mem_endings {purpose : Purpose} {r r' : Report}
    (hr : .report r ∈ purpose.endings r') : r = r' := by
  rcases List.mem_cons.mp hr with heq | hmore
  · exact Ending.report.inj heq
  · split at hmore
    · cases List.mem_singleton.mp hmore
    · cases hmore

/-- A report is made by a task that waits for it, of what all its lanes found. -/
theorem JobMove.report_of_endings {job : Job} {task : Task} {r : Report}
    (hmove : JobMove s span job task) (hr : .report r ∈ s.endings (.running span job) task) :
    ∃ g results, jobGathering? job = some g ∧ g.results? = some results ∧
      r = ⟨.ofList results, s.uptime, s.now⟩ := by
  cases hmove with
  | rest =>
      rw [s.endings_ofMoves.same] at hr
      cases hr
  | @probe p handle =>
      cases hprogress : (p.resume s.prober s.now handle s.env).progress with
      | going q =>
          rw [hprogress] at hr
          cases hr
      | done finding =>
          rw [hprogress] at hr
          cases List.mem_singleton.mp hr
  | lane => exact absurd hr (report_not_mem_lanes r _ _)
  | @report purpose g results hresults =>
      refine ⟨g, results, rfl, hresults, ?_⟩
      cases purpose <;> exact eq_of_mem_endings hr
  | cycleLane => exact absurd hr (report_not_mem_lanes r _ _)
  | @cycle next g results hresults =>
      refine ⟨g, results, rfl, hresults, ?_⟩
      simp only [endings, hresults] at hr
      exact eq_of_mem_endings hr
  | @stopped l => cases l <;> cases hr
  | _ => cases hr

end HealthWatch.Service
