import HealthWatch.Proofs.CallsUnderWay
import HealthWatch.Proofs.Refusals
import HealthWatch.Proofs.ReportsUnderWay
import HealthWatch.Proofs.RequestAnswered

/-!
# Reports on dependencies that refuse

A report that begins in a service that is shut is refused on every lane at the first attempt and
at the instant at which it began (`RefusedIn`).  So time does not pass while it is under way, a
few moves of its own bring it to its end, with one call for each dependency (`RefusedIn.ends`),
and it says of every dependency that it is closed (`RefusedIn.report`).
-/

namespace HealthWatch

open Dependency (Later Refuses)

variable {δ Env : Type} [Dependency δ Env]

/-- Where the lane of an entry is at `time` that is refused: under way, or finished with that the
dependency is closed. -/
inductive Lane.Refused (time : Instant) (e : String × Nat) : Lane → Prop
  | running {p : Probe} (hname : p.name = e.1) (hhandle : p.handle = e.2)
      (hstage : p.stage.Refused time) : Refused time e (.running p)
  | finished (latency : Option Float) :
      Refused time e (.finished e.1 ⟨.unhealthy DependencyError.closed.text latency, time⟩)

/-- What a lane that is refused has found. -/
theorem Lane.Refused.of_finished {time : Instant} {e : String × Nat} {name : String}
    {result : ProbeResult} (h : Refused time e (.finished name result)) :
    name = e.1 ∧ ∃ latency, result = ⟨.unhealthy DependencyError.closed.text latency, time⟩ := by
  generalize hlane : Lane.finished name result = lane at h
  cases h with
  | running => cases hlane
  | finished latency =>
      cases hlane
      exact ⟨rfl, latency, rfl⟩

/-- The report is on the dependencies that are `known`, all of them are closed, and it was made
at `time`. -/
structure Report.Refused (known : List String) (time : Instant) (r : Report) : Prop where
  names : r.dependencies.names = known
  closed : ∀ e ∈ r.dependencies.entries,
    ∃ latency, e.2 = ⟨.unhealthy "dependency is closed" latency, time⟩
  degraded_iff : r.status = .degraded ↔ known ≠ []
  timestamp : r.timestamp = time

/-- A report whose lanes are refused has something to do at once. -/
theorem Gathering.wake_refused {g : Gathering} {entries : List (String × Nat)} {now : Instant}
    (hg : List.Forall₂ (Lane.Refused now) entries g.lanes) : g.wake now = now := by
  rcases g.wake_eq now with ⟨p, hp, hwake⟩ | ⟨_, hwake⟩
  · obtain ⟨e, _, hlane⟩ := exists_of_forall₂ hg hp
    cases hlane with
    | running hname hhandle hstage => rw [hwake, hstage.wake_eq]
  · exact hwake

/-- The lanes of a report that begins are refused, whatever its deadline is. -/
theorem Gathering.start_refused (prober : Prober) (registry : Registry)
    (deadline now : Instant) : List.Forall₂ (Lane.Refused now) registry.all
      (Gathering.start prober registry deadline now).lanes := by
  rw [Gathering.start, List.forall₂_map_right_iff, List.forall₂_same]
  exact fun e _ => .running rfl rfl .due

/-- Results of refused lanes make a report on dependencies that are closed. -/
theorem Report.refused_of_results {registry : Registry} {results : List (String × ProbeResult)}
    {time : Instant} (hresults : List.Forall₂ (Lane.Refused time) registry.all
      (results.map fun x => .finished x.1 x.2)) (uptime : Duration) :
    Report.Refused registry.names time ⟨.ofList results, uptime, time⟩ := by
  rw [List.forall₂_map_right_iff] at hresults
  have hnames : results.map Prod.fst = registry.names :=
    names_of_forall₂ (hresults.imp fun e x hx => hx.of_finished.1)
  have hentries := NameMap.entries_ofList_of_names hnames
  have hclosed : ∀ x ∈ results,
      ∃ latency, x.2 = ⟨.unhealthy "dependency is closed" latency, time⟩ := by
    intro x hx
    obtain ⟨e, _, hlane⟩ := exists_of_forall₂ hresults hx
    exact hlane.of_finished.2
  constructor
  case timestamp => rfl
  case names =>
    rw [NameMap.names, hentries]
    exact hnames
  case closed =>
    intro e he
    rw [hentries] at he
    exact hclosed e he
  case degraded_iff =>
    rw [status_eq_degraded_iff, hentries, ← hnames]
    cases results with
    | nil => simp
    | cons x rest =>
        obtain ⟨latency, hx⟩ := hclosed x List.mem_cons_self
        refine iff_of_true ⟨x, List.mem_cons_self, ?_⟩ (by simp)
        rw [hx]
        rfl

/-! ## The calls of a report -/

/-- How many calls asked a dependency how it is. -/
def Tally.asked (t : Tally) : Nat := t.checks + t.details

/-- A move of a probe asks if no call is under way. -/
theorem Probe.resume_asked (prober : Prober) (p : Probe) (now : Instant) (h : Handle δ)
    (env : Env) :
    (p.resume prober now h env).handle.tally.asked = h.tally.asked + (!p.isCalling).toNat := by
  cases hstage : p.stage with
  | due attempt time =>
      simp only [resume, isCalling, hstage, Probe.begin]
      split
      · exact (Nat.add_assoc _ _ _).symm
      · exact Nat.add_right_comm _ _ _
  | diagnosing ends outcome =>
      simp only [resume, isCalling, hstage]
      rfl
  | checking attempt ends outcome =>
      simp only [resume, isCalling, hstage]
      rfl

/-- How many calls a lane has yet to make on a handle if none of them is repeated. -/
def Lane.unasked (k : Nat) : Lane → Nat
  | .running p => if p.handle = k then (!p.isCalling).toNat else 0
  | .finished .. => 0

/-- How many calls a report has yet to make on a handle if none of them is repeated. -/
def Gathering.unasked (k : Nat) (g : Gathering) : Nat := Service.total (Lane.unasked k) g.lanes

omit [Dependency δ Env] in
/-- A report that begins has a call to make for each time that the registry holds a handle. -/
theorem Gathering.unasked_start (k : Nat) (prober : Prober) (registry : Registry)
    (deadline now : Instant) : (Gathering.start prober registry deadline now).unasked k =
      (registry.all.map Prod.snd).count k := by
  unfold Gathering.unasked Gathering.start
  induction registry.all with
  | nil => rfl
  | cons e entries ih =>
      rw [List.map_cons, List.map_cons, Service.total_cons, ih, List.count_cons, Nat.add_comm]
      simp [Lane.unasked, Probe.start, Probe.isCalling]

omit [Dependency δ Env] in
/-- A report with its results has no call to make. -/
theorem Gathering.unasked_results (k : Nat) {g : Gathering}
    {results : List (String × ProbeResult)} (hresults : g.results? = some results) :
    g.unasked k = 0 := by
  refine Service.total_eq_zero fun lane hlane => ?_
  rw [Gathering.results?_eq_some_iff.mp hresults] at hlane
  obtain ⟨x, _, rfl⟩ := List.mem_map.mp hlane
  rfl

namespace Service

variable {s s' : Service δ Env} {id : Nat} {span : Option Span}

/-! ## Reports that are refused -/

/-- If a task waits for a report, all its lanes are refused now. -/
def RefusedIn (id : Nat) (s : Service δ Env) : Prop :=
  ∀ g, s.gathering? id = some g → List.Forall₂ (Lane.Refused s.now) s.registry.all g.lanes

omit [Dependency δ Env] in
/-- Time does not pass while a report is refused. -/
theorem RefusedIn.pass_now (h : s.RefusedIn id) {g : Gathering} (hg : s.gathering? id = some g)
    (time : Instant) : (s.pass time).now = s.now := by
  rcases s.pass_spec time with hrest | ⟨hpassed, hfrom, hto⟩
  · rw [hrest]
  · obtain ⟨span, job, hid, hjob⟩ := gathering?_eq_some_iff.mp hg
    have hwake : g.wake s.now = s.now := Gathering.wake_refused (h g hg)
    have hle : time ≤ s.now := by
      rcases of_jobGathering? hjob with ⟨purpose, rfl⟩ | ⟨next, rfl⟩
      · exact hto id span _ _ hid (by rw [jobWake, hwake])
      · refine hto id span _ _ hid ?_
        rw [jobWake]
        split
        · rfl
        · rw [hwake]
    rw [hpassed]
    exact Nat.le_antisymm hle hfrom

/-- A lane that moves is refused, or remains so. -/
theorem LaneMove.refused {entries : List (String × Nat)} {g g' : Gathering}
    (hmove : LaneMove s g g') (hshut : s.Shut)
    (hg : List.Forall₂ (Lane.Refused s.now) entries g.lanes) :
    List.Forall₂ (Lane.Refused s.now) entries g'.lanes := by
  cases hmove with
  | rest => exact hg
  | @move n p handle hlane hdue hhandle =>
      refine forall₂_set hg hlane (fun e he hp => ?_) fun _ _ _ _ _ _ _ _ hc => hc
      have hrefuses := hshut handle (List.mem_of_getElem? hhandle)
      cases hp with
      | running hname hplace hstage =>
          rcases p.resume_refused hrefuses s.prober hstage s.env with
            ⟨_, q, hgoing, hname', hplace', _, hnext⟩ | ⟨_, latency, hdone⟩
          · rw [hgoing]
            exact .running (hname'.trans hname) (hplace'.trans hplace) hnext
          · rw [hdone, laneAfter, hname]
            exact .finished latency

/-- A move of a probe makes the call that it has to make. -/
theorem moveProbe_asked {p : Probe} {h : Handle δ} (span : Option Span)
    (hh : s.handles[p.handle]? = some h) (k : Nat) :
    ((s.moveProbe span p).1.tallyOf k).asked =
      (s.tallyOf k).asked + Lane.unasked k (.running p) := by
  obtain ⟨_, hhandles, _⟩ := moveProbe_spec span hh
  have hlt := (List.getElem?_eq_some_iff.mp hh).1
  by_cases heq : p.handle = k
  · subst heq
    have hbefore : s.tallyOf p.handle = h.tally := by simp [tallyOf, hh]
    have hafter : (s.moveProbe span p).1.tallyOf p.handle =
        (p.resume s.prober s.now h s.env).handle.tally := by simp [tallyOf, hhandles, hlt]
    rw [hbefore, hafter, Probe.resume_asked, Lane.unasked, if_pos rfl]
  · have hsame : (s.moveProbe span p).1.tallyOf k = s.tallyOf k := by
      simp [tallyOf, hhandles, heq]
    rw [hsame, Lane.unasked, if_neg heq, Nat.add_zero]

/-- A lane that is refused makes no call beyond the one that it has to make. -/
theorem moveLane_asked {entries : List (String × Nat)} {g : Gathering} (hshut : s.Shut)
    (hg : List.Forall₂ (Lane.Refused s.now) entries g.lanes) (span : Option Span) (n k : Nat) :
    ((s.moveLane span g n).1.tallyOf k).asked + (s.moveLane span g n).2.unasked k =
      (s.tallyOf k).asked + g.unasked k := by
  rcases s.moveLane_cases span g n with hrest | ⟨p, h, hlane, _, hh, hservice, hlanes⟩
  · rw [hrest]
  · have hafter : Lane.unasked k
        (laneAfter p s.now (p.resume s.prober s.now h s.env).progress) = 0 := by
      obtain ⟨e, _, hp⟩ := exists_of_forall₂ hg (List.mem_of_getElem? hlane)
      cases hp with
      | running hname hhandle hstage =>
          have hrefuses := hshut h (List.mem_of_getElem? hh)
          rcases p.resume_refused hrefuses s.prober hstage s.env with
            ⟨_, q, hgoing, _, _, hcalling, _⟩ | ⟨_, latency, hdone⟩
          · rw [hgoing, laneAfter, Lane.unasked, hcalling]
            exact ite_self 0
          · rw [hdone]
            rfl
    have htotal := total_set (f := Lane.unasked k) hlane
      (laneAfter p s.now (p.resume s.prober s.now h s.env).progress)
    have hasked := moveProbe_asked span hh k
    rw [hservice, hlanes]
    simp only [Gathering.unasked]
    omega

/-- **One action.**  A report that is begun is refused on every lane, and one that is refused
remains so. -/
theorem RefusedIn.act (h : s.RefusedIn id) (hshut : s.Shut) {a : Action δ}
    (ha : a.RegistersNothing) : (s.act a).RefusedIn id := by
  intro g hg
  rw [(s.act_keeps a).names ha]
  by_cases hpass : ∃ time, a = .pass time
  · obtain ⟨time, rfl⟩ := hpass
    have htasks : (s.pass time).tasks = s.tasks := by
      unfold pass
      split <;> rfl
    have hg' : s.gathering? id = some g := by
      rw [gathering?, job?, ← htasks]
      exact hg
    have hnow : (s.act (.pass time)).now = s.now := h.pass_now hg' time
    rw [hnow]
    exact h g hg'
  · have hnow : (s.act a).now = s.now := act_now fun time heq => hpass ⟨time, heq⟩
    rw [hnow]
    rcases gathering?_act hg with hsame | ⟨deadline, rfl⟩ | ⟨g₀, hg₀, hmove⟩
    · exact h g hsame
    · exact Gathering.start_refused _ _ _ _
    · exact hmove.refused hshut (h g₀ hg₀)

theorem RefusedIn.run (h : s.RefusedIn id) (hshut : s.Shut) {actions : List (Action δ)}
    (hactions : ∀ a ∈ actions, a.RegistersNothing) : (s.run actions).RefusedIn id :=
  have hboth := run_keeps (P := fun t => t.RefusedIn id ∧ t.Shut)
    (fun _ _ ht ha => ⟨ht.1.act ht.2 ha, ht.2.act ha⟩) ⟨h, hshut⟩ hactions
  hboth.1

/-- **What is reported.**  A report that is made of refused lanes says that every dependency is
closed. -/
theorem RefusedIn.report (h : s.RefusedIn id) {a : Action δ} {task task' : Task} {r : Report}
    (hid : s.tasks[id]? = some task) (hid' : (s.act a).tasks[id]? = some task')
    (hr : .report r ∈ s.endings task task') : r.Refused s.registry.names s.now := by
  rcases act_getElem? hid a with
    hsame | ⟨part, span, job, moved, _, rfl, hafter, hmoved⟩ | ⟨_, hdrop⟩
  · cases hsame.symm.trans hid'
    rw [s.endings_ofMoves.same] at hr
    cases hr
  · cases hafter.symm.trans hid'
    obtain ⟨g, results, hjob, hresults, rfl⟩ := hmoved.move.report_of_endings hr
    have hlanes := h g (gathering?_eq_some_iff.mpr ⟨span, job, hid, hjob⟩)
    rw [Gathering.results?_eq_some_iff.mp hresults] at hlanes
    exact Report.refused_of_results hlanes _
  · cases hdrop.symm.trans hid'
    rw [s.endings_ofMoves.dropped] at hr
    cases hr

/-! ## Reports that end at once -/

/-- The move of a lane leaves the report under way. -/
theorem gathering?_moveLane {g : Gathering} (hg : s.gathering? id = some g) :
    ∃ span, ∀ n, (s.move id (.lane n)).gathering? id = some (s.moveLane span g n).2 ∧
      (s.move id (.lane n)).handles = (s.moveLane span g n).1.handles := by
  obtain ⟨span, job, hid, hjob⟩ := gathering?_eq_some_iff.mp hg
  have hlt := (List.getElem?_eq_some_iff.mp hid).1
  have hset : ∀ n job', ((s.moveLane span g n).1.setTask id (.running span job')).tasks[id]? =
      some (.running span job') := by
    intro n job'
    rw [setTask, (s.moveLane_spec span g n).2.2.1]
    exact List.getElem?_set_self hlt
  refine ⟨span, fun n => ?_⟩
  rcases of_jobGathering? hjob with ⟨purpose, rfl⟩ | ⟨next, rfl⟩
  · simp only [move, hid, moveJob]
    exact ⟨gathering?_eq_some_iff.mpr ⟨span, _, hset n _, rfl⟩, rfl⟩
  · simp only [move, hid, moveJob]
    exact ⟨gathering?_eq_some_iff.mpr ⟨span, _, hset n _, rfl⟩, rfl⟩

/-- When all lanes have finished, the next move makes the report, and asks nobody. -/
theorem gathering?_moveWhole {g : Gathering} {results : List (String × ProbeResult)}
    (hg : s.gathering? id = some g) (hresults : g.results? = some results) :
    (s.move id .whole).gathering? id = none ∧ (s.move id .whole).handles = s.handles ∧
      .report ⟨.ofList results, s.uptime, s.now⟩ ∈
        changes s.endings s.tasks (s.move id .whole).tasks := by
  obtain ⟨span, job, hid, hjob⟩ := gathering?_eq_some_iff.mp hg
  have hmove : s.move id .whole = s.moveJob id span job .whole := by simp only [move, hid]
  have hover : ∀ {task : Task}, Moved s (s.move id .whole) id span job task →
      (∀ span' job', task = .running span' job' → jobGathering? job' = none) →
        (s.move id .whole).gathering? id = none := by
    intro task hmoved hnone
    refine Option.eq_none_iff_forall_ne_some.mpr fun g' hg' => ?_
    obtain ⟨span', job', hid', hjob'⟩ := gathering?_eq_some_iff.mp hg'
    rw [hmoved.tasks, List.getElem?_set_self (List.getElem?_eq_some_iff.mp hid).1] at hid'
    rw [hnone span' job' (Option.some.inj hid')] at hjob'
    cases hjob'
  rcases of_jobGathering? hjob with ⟨purpose, rfl⟩ | ⟨next, rfl⟩
  · have hmoved : Moved s (s.moveJob id span (.reporting purpose g) .whole) id span _ _ :=
      .report hresults
    rw [← hmove] at hmoved
    refine ⟨hover hmoved (fun span' job' htask => by cases htask), ?_, ?_⟩
    · rw [hmove]
      simp only [moveJob, hresults]
      cases purpose <;> rfl
    · rw [hmoved.tasks, changes_set s.endings_ofMoves.same hid]
      cases purpose <;> exact List.mem_cons_self
  · have hmoved : Moved s (s.moveJob id span (.ticking (.cycling next g)) .whole) id span _ _ :=
      .cycle hresults
    rw [← hmove] at hmoved
    refine ⟨hover hmoved fun span' job' htask => ?_, ?_, ?_⟩
    · cases htask
      rfl
    · rw [hmove]
      simp only [moveJob, moveLoop, hresults]
      rfl
    · rw [hmoved.tasks, changes_set s.endings_ofMoves.same hid]
      simp only [endings, hresults]
      exact List.mem_cons_self

omit [Dependency δ Env] in
theorem Sound.gathering (hs : s.Sound) {g : Gathering} (hg : s.gathering? id = some g) :
    ∃ limit, g.Sound s.prober s.handles.length limit s.now := by
  obtain ⟨span, job, hid, hjob⟩ := gathering?_eq_some_iff.mp hg
  have hsound := hs.jobs id span job hid
  rcases of_jobGathering? hjob with ⟨purpose, rfl⟩ | ⟨next, rfl⟩
  · exact hsound
  · exact hsound

/-- Moves of one task. -/
def movesOf (id : Nat) (parts : List Part) : List (Action δ) := parts.map (.move id)

/-- Some moves of a task end the report that it waits for.  No time passes, every call that is to
be made is made once, and the report that is made is `r`. -/
structure MadeAtOnce (id : Nat) (s : Service δ Env) (g : Gathering) (parts : List Part)
    (r : Report) : Prop where
  now : (s.run (movesOf id parts)).now = s.now
  idle : (s.run (movesOf id parts)).gathering? id = none
  made : .report r ∈ observed endings s (movesOf id parts)
  asked : ∀ k, ((s.run (movesOf id parts)).tallyOf k).asked = (s.tallyOf k).asked + g.unasked k

/-- **A report that is refused ends at once.**  Moves of its own bring it to its end, and no time
passes. -/
theorem RefusedIn.ends (h : s.RefusedIn id) (hshut : s.Shut) (hs : s.Sound) {g : Gathering}
    (hg : s.gathering? id = some g) :
    ∃ parts r, MadeAtOnce id s g parts r ∧ r.Refused s.registry.names s.now := by
  generalize heffort : s.lanesEffort g = effort
  induction effort using Nat.strongRecOn generalizing s g with
  | ind effort ih =>
      cases hresults : g.results? with
      | some results =>
          obtain ⟨hover, hhandles, hreport⟩ := gathering?_moveWhole hg hresults
          have hlanes := h g hg
          rw [Gathering.results?_eq_some_iff.mp hresults] at hlanes
          have hnow : (s.act (.move id .whole)).now = s.now := act_now (by simp)
          refine ⟨[.whole], _, ⟨hnow, hover, List.mem_append_left _ hreport, ?_⟩,
            Report.refused_of_results hlanes s.uptime⟩
          intro k
          rw [Gathering.unasked_results k hresults, tallyOf, tallyOf]
          exact congrArg (fun l : List (Handle δ) => ((l[k]?).elim .zero (·.tally)).asked) hhandles
      | none =>
          obtain ⟨p, hp⟩ := Gathering.exists_running hresults
          obtain ⟨limit, hsound⟩ := hs.gathering hg
          obtain ⟨e, _, hlane⟩ := exists_of_forall₂ (h g hg) hp
          have hdue : p.wake ≤ s.now := by
            cases hlane with
            | running hname hhandle hstage => exact Nat.le_of_eq hstage.wake_eq
          obtain ⟨span, hnext⟩ := gathering?_moveLane hg
          obtain ⟨n, hlt⟩ := exists_lane_lt span hsound hp hdue
          obtain ⟨hg', hhandles⟩ := hnext n
          let next := s.act (.move id (.lane n))
          have hkeeps : Action.RegistersNothing (.move id (.lane n) : Action δ) := by
            intro name dependency heq
            cases heq
          have hnow : next.now = s.now := act_now (by simp)
          have hregistry : next.registry.all = s.registry.all := (s.act_keeps _).names hkeeps
          have hsame : next.lanesEffort = s.lanesEffort := by
            have hlanes : next.lanesMoves = s.lanesMoves := by
              funext lane
              cases lane <;> simp only [lanesMoves, (Continues.act s _).prober, next]
            funext g'
            simp only [lanesEffort, hlanes]
          obtain ⟨parts, r, hmade, hrefused⟩ := ih _ (heffort ▸ hlt) (h.act hshut hkeeps)
            (hshut.act hkeeps) (hs.act _) hg' (congrFun hsame _)
          refine ⟨.lane n :: parts, r, ⟨hmade.now.trans hnow, hmade.idle,
            List.mem_append_right _ hmade.made, fun k => ?_⟩, ?_⟩
          · have htally : next.tallyOf k = (s.moveLane span g n).1.tallyOf k := by
              rw [tallyOf, tallyOf, ← hhandles]
              rfl
            have hall := hmade.asked k
            have hone := moveLane_asked hshut (h g hg) span n k
            rw [htally] at hall
            exact hall.trans hone
          · have hnames : next.registry.names = s.registry.names :=
              congrArg (List.map Prod.fst) hregistry
            rw [← hnames, ← hnow]
            exact hrefused

end Service

end HealthWatch
