import HealthWatch.Proofs.CheckedRun
import HealthWatch.Proofs.MetricsConservation
import HealthWatch.Proofs.RequestAnswered
import HealthWatch.Proofs.ToldEvents

/-!
# What a cycle does of its own

Many tasks write to one log and to the same metrics.  `Effects` is what somebody adds to them,
and `Share` adds up what one task does of its own in a run, whatever happens between its moves.

A cycle is a call of its own or a part of the ticker's loop (`CycleBegins`).  As long as it is
under way it has told and recorded nothing but its probes (`CycleStands`).  Then it either
completes, and with one move tells a line for each dependency and the sum and counts itself
once (`CycleCompletes`), or it is given up and does nothing more (`CycleGivenUp`).  Nothing else
can become of it (`cycle_all_or_nothing`).
-/

namespace HealthWatch

/-! ## Effects -/

/-- What is added to the log and to the metrics. -/
structure Effects where
  /-- What is told, in this order. -/
  told : List LogEntry
  /-- What is recorded as ended, in this order. -/
  ended : List Ending

namespace Effects

/-- Nothing is added. -/
def none : Effects := ⟨[], []⟩

/-- What is added by one after the other. -/
def andThen (e e' : Effects) : Effects := ⟨e.told ++ e'.told, e.ended ++ e'.ended⟩

end Effects

namespace Service

section

variable {δ Env : Type}

/-- The second service is the first one with the effects added. -/
structure Shows (s s' : Service δ Env) (e : Effects) : Prop where
  log : s'.log = e.told.reverse ++ s.log
  metrics : s'.metrics = s.metrics.map (·.noteAll e.ended)
  cycles : s'.ticker.cycles = s.ticker.cycles + Ending.cycles e.ended

theorem Shows.refl (s : Service δ Env) : Shows s s .none :=
  ⟨rfl, (Metrics.map_noteAll_nil _).symm, rfl⟩

theorem Shows.setTask {s s' : Service δ Env} {e : Effects} (h : Shows s s' e) (id : Nat)
    (task : Task) : Shows s (s'.setTask id task) e :=
  ⟨h.log, h.metrics, h.cycles⟩

/-- An action is one of a task. -/
def Action.IsOf (id : Nat) (a : Action δ) : Prop := (∃ part, a = .move id part) ∨ a = .drop id

end

variable {δ Env : Type} [Dependency δ Env]

theorem run_concat (s : Service δ Env) (actions : List (Action δ)) (a : Action δ) :
    s.run (actions ++ [a]) = (s.run actions).act a := List.foldl_concat ..

/-- What a task adds in a run by the actions that are its own. -/
inductive Share (id : Nat) (s : Service δ Env) : List (Action δ) → Effects → Prop
  | nil : Share id s [] .none
  | own {actions : List (Action δ)} {a : Action δ} {e e' : Effects} (h : Share id s actions e)
      (ha : a.IsOf id) (hshows : Shows (s.run actions) ((s.run actions).act a) e') :
      Share id s (actions ++ [a]) (e.andThen e')
  | other {actions : List (Action δ)} {a : Action δ} {e : Effects} (h : Share id s actions e)
      (ha : ¬a.IsOf id) : Share id s (actions ++ [a]) e

/-! ## The life of a cycle -/

/-- A cycle begins at `s` as task `id`, or in the loop that is task `id`. -/
inductive CycleBegins (s : Service δ Env) : Nat → Option Span → Service δ Env → Prop
  | call : CycleBegins s s.tasks.length none (s.act .beginCycle)
  | tick {id : Nat} {span : Option Span} {next : Instant}
      (hid : s.tasks[id]? = some (.running span (.ticking (.idle next)))) (hdue : next ≤ s.now) :
      CycleBegins s id (some .ticker) (s.act (.move id .whole))

/-- A cycle is under way, with these lanes. -/
inductive UnderWay (s : Service δ Env) (id : Nat) : Option Span → Gathering → Prop
  | call {g : Gathering} (hid : s.tasks[id]? = some (.running none (.reporting .cycle g))) :
      UnderWay s id none g
  | loop {g : Gathering} {next : Instant}
      (hid : s.tasks[id]? = some (.running (some .ticker) (.ticking (.cycling next g)))) :
      UnderWay s id (some .ticker) g

/-- A cycle is over and has returned its report: the call ends with it, and the loop waits for
the next tick. -/
inductive Returns (s : Service δ Env) (id : Nat) (r : Report) : Option Span → Prop
  | call (hid : s.tasks[id]? = some (.ended s.now (.reported r))) : Returns s id r none
  | loop {next : Instant}
      (hid : s.tasks[id]? = some (.running (some .ticker) (.ticking (.idle next)))) :
      Returns s id r (some .ticker)

end Service

/-- The end of the probe of a lane, in a report that began at `start`. -/
def Lane.ending? (start : Instant) : Lane → Option Ending
  | .running _ => none
  | .finished name result =>
    some (.probe name result.finding (.ofMillis (result.checkedAt - start)))

/-- A lane of a report that began at `start`, on an entry of a registry.  A finding is healthy
or tells the error of the dependency. -/
def Lane.Since (start : Instant) (entry : String × Nat) : Lane → Prop
  | .running p => p.name = entry.1 ∧ p.started = start
  | .finished name result => name = entry.1 ∧
      (result.finding.isHealthy = false →
        ∃ error : DependencyError, result.finding.error? = some error.text)

/-- The line of a cycle on one dependency: an information with the latency if it is healthy, and
otherwise a warning with its own error. -/
inductive LineOn (name : String) (finding : Finding) (line : Event) : Prop
  | healthy (hhealthy : finding.isHealthy = true) (level : line.level = .info)
      (message : line.message = name ++ " healthy")
      (fields : line.fields =
        [("dependency", .plain name), ("latency_ms", .plain (optionalLatency finding.latency?))])
  | unhealthy (error : DependencyError) (hhealthy : finding.isHealthy = false)
      (own : finding.error? = some error.text) (known : error.text ≠ "unknown")
      (level : line.level = .warn) (message : line.message = name ++ " health check failed")
      (fields : line.fields = [("dependency", .plain name), ("error", .quoted error.text)])

/-- The sum of a cycle with this report. -/
structure SumOf (r : Report) (healthy unhealthy : Nat) (sum : Event) : Prop where
  healthy_eq : healthy = r.dependencies.values.countP (·.finding.isHealthy)
  all : healthy + unhealthy = r.dependencies.size
  ok_iff : r.status = .ok ↔ unhealthy = 0
  level : sum.level = .info
  message : sum.message = s!"Health check complete: {healthy} healthy, {unhealthy} unhealthy"
  fields : sum.fields = [("status", .plain r.status.text)]

namespace Service

variable {δ Env : Type} [Dependency δ Env]

/-- How a cycle stands that began at `start` and is under way, after what it has done so far: it
has told of its probes only, and recorded exactly those that have ended. -/
structure CycleStands (start : Instant) (id : Nat) (span : Option Span)
    (registry : Registry) (s : Service δ Env) (e : Effects) (g : Gathering) : Prop where
  underWay : s.UnderWay id span g
  lanes : List.Forall₂ (Lane.Since start) registry.all g.lanes
  told : ∀ entry ∈ e.told, entry.event.topic = .probe
  ended : e.ended.Perm (g.lanes.filterMap (Lane.ending? start))

/-- A cycle that began at `start` completes with the report `r`, after it has recorded `ended`.
All this comes with one move, and at one instant. -/
structure CycleCompletes (start : Instant) (id : Nat) (span : Option Span) (ended : List Ending)
    (s s' : Service δ Env) (r : Report) : Prop where
  returns : s'.Returns id r span
  instant : s'.now = s.now ∧ r.timestamp = s.now
  /-- What was recorded of probes is what the report tells of them. -/
  probes : ended.Perm (r.dependencies.entries.map fun x =>
    .probe x.1 x.2.finding (.ofMillis (x.2.checkedAt - start)))
  /-- After the report itself there is told a line for each of its dependencies, in increasing
  order of their names, then the sum, and nothing else. -/
  shows : ∃ lines sum healthy unhealthy,
    Shows s s' ⟨(.reportBuilt r.status r.healthyCount r.total :: (lines ++ [sum])).map
      (⟨s.now, span, ·⟩), [.report r, .cycle]⟩ ∧
    List.Forall₂ (fun x line => LineOn x.1 x.2.finding line) r.dependencies.entries lines ∧
    SumOf r healthy unhealthy sum
  names : r.dependencies.names.Pairwise (· < ·)
  cycles : s'.ticker.cycles = s.ticker.cycles + 1
  counted : s'.metrics.map (·.cycles) = s.metrics.map (·.cycles + 1)

/-- A cycle is given up: its task is dropped, or the loop that it was part of stops and tells
that.  Nothing is counted. -/
structure CycleGivenUp (id : Nat) (span : Option Span) (s s' : Service δ Env) : Prop where
  shows : s'.tasks[id]? = some .dropped ∧ Shows s s' .none ∨
    span = some .ticker ∧ s'.tasks[id]? = some (.ended s.now .stopped) ∧
      Shows s s' ⟨[⟨s.now, some .ticker, .tickerStopped⟩], []⟩
  cycles : s'.ticker.cycles = s.ticker.cycles
  metrics : s'.metrics = s.metrics

/-- What can become in a run of a cycle that began at `start`, as a part of `s₀`. -/
inductive CycleCourse (start : Instant) (id : Nat) (span : Option Span)
    (registry : Registry) (s₀ : Service δ Env) : List (Action δ) → Prop
  | goesOn {actions : List (Action δ)} {e : Effects} {g : Gathering}
      (hshare : Share id s₀ actions e)
      (hstands : CycleStands start id span registry (s₀.run actions) e g) :
      CycleCourse start id span registry s₀ actions
  | completes {before rest : List (Action δ)} {a : Action δ} {e : Effects} {g : Gathering}
      {r : Report} (hshare : Share id s₀ before e)
      (hstands : CycleStands start id span registry (s₀.run before) e g) (ha : a.IsOf id)
      (hcompletes : CycleCompletes start id span e.ended (s₀.run before)
        ((s₀.run before).act a) r) :
      CycleCourse start id span registry s₀ (before ++ a :: rest)
  | givenUp {before rest : List (Action δ)} {a : Action δ} {e : Effects} {g : Gathering}
      (hshare : Share id s₀ before e)
      (hstands : CycleStands start id span registry (s₀.run before) e g) (ha : a.IsOf id)
      (hgivenUp : CycleGivenUp id span (s₀.run before) ((s₀.run before).act a)) :
      CycleCourse start id span registry s₀ (before ++ a :: rest)

end Service

/-! ## Lanes -/

/-- A text that goes on after three characters begins with them. -/
theorem take_of_append_eq {s rest whole : String} (h : s ++ rest = whole)
    (hlength : 3 ≤ s.toList.length) : s.toList.take 3 = whole.toList.take 3 := by
  rw [← h, String.toList_append, List.take_append_of_le_length hlength]

/-- An error has no text but its own. -/
theorem DependencyError.text_ne_unknown (error : DependencyError) : error.text ≠ "unknown" := by
  intro h
  cases error with
  | connection reason => exact absurd (take_of_append_eq h (by decide)) (by decide)
  | protocol reason => exact absurd (take_of_append_eq h (by decide)) (by decide)
  | status code => exact absurd (take_of_append_eq h (by decide)) (by decide)
  | deadlineExceeded elapsed => exact absurd (take_of_append_eq h (by decide)) (by decide)
  | closed => exact absurd h (by decide)

/-- Where one element of a list gets a value that it had not, that value is new. -/
theorem filterMap_set_perm {α β : Type} {f : α → Option β} {l : List α} {n : Nat} {x y : α}
    {b : β} (hn : l[n]? = some x) (hx : f x = none) (hy : f y = some b) :
    (l.filterMap f ++ [b]).Perm ((l.set n y).filterMap f) := by
  obtain ⟨hlt, hget⟩ := List.getElem?_eq_some_iff.mp hn
  have hold : l.filterMap f = (l.take n).filterMap f ++ (l.drop (n + 1)).filterMap f := by
    conv_lhs => rw [← List.take_append_drop n l, List.drop_eq_getElem_cons hlt, hget]
    rw [List.filterMap_append, List.filterMap_cons_none hx]
  have hnew : (l.set n y).filterMap f =
      (l.take n).filterMap f ++ b :: (l.drop (n + 1)).filterMap f := by
    rw [List.set_eq_take_append_cons_drop, if_pos hlt, List.filterMap_append,
      List.filterMap_cons_some hy]
  rw [hold, hnew]
  exact (List.perm_append_singleton _ _).trans List.perm_middle.symm

/-- A value that is as it was is no news. -/
theorem filterMap_set_eq {α β : Type} {f : α → Option β} {l : List α} {n : Nat} {x y : α}
    (hn : l[n]? = some x) (hx : f x = none) (hy : f y = none) :
    (l.set n y).filterMap f = l.filterMap f := by
  obtain ⟨hlt, hget⟩ := List.getElem?_eq_some_iff.mp hn
  rw [List.set_eq_take_append_cons_drop, if_pos hlt, List.filterMap_append,
    List.filterMap_cons_none hy]
  conv_rhs => rw [← List.take_append_drop n l, List.drop_eq_getElem_cons hlt, hget]
  rw [List.filterMap_append, List.filterMap_cons_none hx]

/-- A finding that is not healthy tells the error of the dependency. -/
theorem Probe.Stage.Ends.explained {stage : Probe.Stage} {f : Finding} (h : Ends stage f)
    (hunhealthy : f.isHealthy = false) :
    ∃ error : DependencyError, f.error? = some error.text := by
  cases h with
  | diagnosed => cases hunhealthy
  | undiagnosed => exact ⟨_, rfl⟩
  | answered => cases hunhealthy
  | gaveUp => exact ⟨_, rfl⟩

namespace Service

variable {δ Env : Type} [Dependency δ Env] {s : Service δ Env} {start : Instant}

/-- A move of a probe tells of the probe, and records its end if it ends. -/
theorem moveProbe_shows (s : Service δ Env) (span : Option Span) (p : Probe) :
    ∃ told : List LogEntry, (∀ entry ∈ told, entry.event.topic = .probe) ∧
      Shows s (s.moveProbe span p).1
        ⟨told, Lane.endings (.running p) (laneAfter p s.now (s.moveProbe span p).2)⟩ := by
  have hmetrics := s.moveProbe_metrics span p
  have hcycles : Ending.cycles
      (Lane.endings (.running p) (laneAfter p s.now (s.moveProbe span p).2)) = 0 := by
    cases (s.moveProbe span p).2 <;> rfl
  have hticker : (s.moveProbe span p).1.ticker.cycles = s.ticker.cycles :=
    congrArg Ticker.cycles (s.moveProbe_frame span p).2.2
  have hlog : ∃ told : List LogEntry, (∀ entry ∈ told, entry.event.topic = .probe) ∧
      (s.moveProbe span p).1.log = told.reverse ++ s.log := by
    cases hh : s.handles[p.handle]? with
    | none =>
        refine ⟨[], by simp, ?_⟩
        simp only [moveProbe, hh]
        rfl
    | some h =>
        have htopic := p.topic_resume s.prober s.now h s.env
        refine ⟨(p.resume s.prober s.now h s.env).events.map (⟨s.now, span, ·⟩), ?_, ?_⟩
        · intro entry hentry
          obtain ⟨event, hevent, rfl⟩ := List.mem_map.mp hentry
          exact htopic event hevent
        · simp only [moveProbe, hh]
          split <;> rfl
  obtain ⟨told, htold, hlog⟩ := hlog
  exact ⟨told, htold, hlog, hmetrics, by rw [hticker, hcycles, Nat.add_zero]⟩

/-- A move of a lane tells of its probe, and the end of a probe that it records is the one that
has been added to the lanes. -/
theorem moveLane_shows (s : Service δ Env) (span : Option Span) {g : Gathering} (n : Nat)
    {entries : List (String × Nat)} (hlanes : List.Forall₂ (Lane.Since start) entries g.lanes) :
    ∃ e : Effects, (∀ entry ∈ e.told, entry.event.topic = .probe) ∧
      Shows s (s.moveLane span g n).1 e ∧
      List.Forall₂ (Lane.Since start) entries (s.moveLane span g n).2.lanes ∧
      (g.lanes.filterMap (Lane.ending? start) ++ e.ended).Perm
        ((s.moveLane span g n).2.lanes.filterMap (Lane.ending? start)) := by
  rcases s.moveLane_cases span g n with hrest | ⟨p, h, hlane, hdue, hh, hservice, hgathering⟩
  · rw [hrest]
    exact ⟨.none, by simp [Effects.none], .refl s, hlanes, by simp [Effects.none]⟩
  obtain ⟨told, htold, hshows⟩ := s.moveProbe_shows span p
  rw [(moveProbe_spec span hh).1] at hshows
  rw [hservice, hgathering]
  refine ⟨_, htold, hshows, ?_, ?_⟩
  · refine forall₂_set hlanes hlane (fun entry _ hp => ?_) fun _ _ _ _ _ _ _ _ hc => hc
    obtain ⟨hname, hstarted⟩ := hp
    cases hprogress : (p.resume s.prober s.now h s.env).progress with
    | going q =>
        obtain ⟨stage, _, rfl⟩ := Probe.resume_going hprogress
        exact ⟨hname, hstarted⟩
    | done finding => exact ⟨hname, (Probe.resume_done hprogress).explained⟩
  · have hstarted : p.started = start := by
      obtain ⟨entry, _, hp⟩ := exists_of_forall₂ hlanes (List.mem_of_getElem? hlane)
      exact hp.2
    cases (p.resume s.prober s.now h s.env).progress with
    | going q =>
        have hsame := filterMap_set_eq (f := Lane.ending? start) (y := .running q) hlane rfl rfl
        simp only [laneAfter, Lane.endings, hsame, List.append_nil, List.Perm.refl]
    | done finding =>
        refine filterMap_set_perm hlane rfl ?_
        rw [Probe.elapsed, hstarted]
        rfl

/-- What follows from a cycle's standing and a move of one of its lanes. -/
theorem CycleStands.moveLane {id : Nat} {span : Option Span} {registry : Registry}
    {e : Effects} {g : Gathering} (h : CycleStands start id span registry s e g) (n : Nat) :
    ∃ e', Shows s (s.moveLane span g n).1 e' ∧ ∀ s' : Service δ Env,
      s'.UnderWay id span (s.moveLane span g n).2 →
        CycleStands start id span registry s' (e.andThen e') (s.moveLane span g n).2 := by
  obtain ⟨e', htold, hshows, hlanes, hperm⟩ := s.moveLane_shows span n h.lanes
  refine ⟨e', hshows, fun s' hunderWay => ⟨hunderWay, hlanes, ?_, ?_⟩⟩
  · intro entry hentry
    exact (List.mem_append.mp hentry).elim (h.told entry) (htold entry)
  · exact (h.ended.append_right e'.ended).trans hperm

/-! ## The end of a cycle -/

/-- The lines of a cycle are on the findings that its lanes have. -/
theorem lineOn_cycleLine {entry : String × Nat} {x : String × ProbeResult}
    (hx : Lane.Since start entry (.finished x.1 x.2)) :
    LineOn x.1 x.2.finding (cycleLine x.1 x.2) := by
  obtain ⟨name, finding, checkedAt⟩ := x
  cases finding with
  | healthy uptime latency => exact .healthy rfl rfl rfl rfl
  | unhealthy text latency =>
      obtain ⟨error, herror⟩ := hx.2 rfl
      cases herror
      exact .unhealthy error rfl rfl error.text_ne_unknown rfl rfl rfl

theorem sumOf_cycleComplete (r : Report) :
    SumOf r r.healthyCount r.unhealthyCount
      (.cycleComplete r.status r.healthyCount r.unhealthyCount) := by
  have hle : r.healthyCount ≤ r.total := r.healthyCount_le
  have htotal : r.total = r.dependencies.size := rfl
  refine ⟨List.countP_eq_length_filter.symm, ?_, ?_, rfl, rfl, rfl⟩
  · rw [Report.unhealthyCount]
    omega
  · rw [r.status_eq_ok_iff, Report.unhealthyCount]
    omega

omit [Dependency δ Env] in
/-- What is added by the move that completes a cycle. -/
theorem finishCycle_shows (s : Service δ Env) (span : Option Span)
    (results : List (String × ProbeResult)) :
    let r := (s.finishReport span results).2
    Shows s ((s.finishReport span results).1.finishCycle span r)
      ⟨(.reportBuilt r.status r.healthyCount r.total :: cycleEvents r).map (⟨s.now, span, ·⟩),
        [.report r, .cycle]⟩ where
  log := by simp [finishCycle, finishReport, tell, record]
  metrics := s.serveReport_metrics span .cycle results
  cycles := rfl

variable {id : Nat} {span : Option Span} {registry : Registry} {e : Effects} {g : Gathering}

omit [Dependency δ Env] in
/-- A cycle whose lanes have all finished completes with its report. -/
theorem CycleStands.completes (h : CycleStands start id span registry s e g)
    {results : List (String × ProbeResult)} (hresults : g.results? = some results) {task : Task}
    {r : Report} (hr : (s.finishReport span results).2 = r)
    (hreturns : (((s.finishReport span results).1.finishCycle span r).setTask id task).Returns
      id r span) :
    CycleCompletes start id span e.ended s
      (((s.finishReport span results).1.finishCycle span r).setTask id task) r := by
  have hlanes := h.lanes
  have hended := h.ended
  rw [Gathering.results?_eq_some_iff.mp hresults] at hlanes hended
  rw [List.forall₂_map_right_iff] at hlanes
  have hnames : results.map Prod.fst = registry.names :=
    names_of_forall₂ (hlanes.imp fun entry x hx => hx.1)
  have hentries : r.dependencies.entries = results := by
    rw [← hr]
    exact NameMap.entries_ofList_of_names hnames
  have hshows := s.finishCycle_shows span results
  simp only [hr] at hshows
  have hlines : List.Forall₂ (fun x line => LineOn x.1 x.2.finding line) r.dependencies.entries
      (r.dependencies.entries.map fun x => cycleLine x.1 x.2) := by
    rw [List.forall₂_map_right_iff, List.forall₂_same, hentries]
    intro x hx
    obtain ⟨entry, _, hlane⟩ := exists_of_forall₂ hlanes hx
    exact lineOn_cycleLine hlane
  refine ⟨hreturns, ⟨rfl, hr ▸ rfl⟩, ?_,
    ⟨_, _, _, _, hshows.setTask id task, hlines, sumOf_cycleComplete r⟩,
    r.dependencies.names_increasing, rfl, ?_⟩
  · rw [List.filterMap_map] at hended
    rw [hentries, ← List.filterMap_eq_map]
    exact hended
  · have hmetrics := (hshows.setTask id task).metrics
    rw [hmetrics, Option.map_map]
    rfl

/-- A cycle that is dropped does nothing more. -/
theorem UnderWay.drop (h : s.UnderWay id span g) :
    CycleGivenUp id span s (s.act (.drop id)) := by
  obtain ⟨span', job, hid⟩ : ∃ span' job, s.tasks[id]? = some (.running span' job) := by
    cases h with
    | call hid => exact ⟨_, _, hid⟩
    | loop hid => exact ⟨_, _, hid⟩
  have hact : s.act (.drop id) = (s.abandonJob job).setTask id .dropped := by
    simp only [act, Service.drop, hid]
  have hlt : id < (s.abandonJob job).tasks.length := by
    rw [(s.abandonJob_frame job).2.1]
    exact (List.getElem?_eq_some_iff.mp hid).1
  have hshows : Shows s (s.abandonJob job) .none := by
    rw [s.abandonJob_eq]
    exact ⟨rfl, (Metrics.map_noteAll_nil _).symm, rfl⟩
  rw [hact]
  refine ⟨.inl ⟨List.getElem?_set_self hlt, hshows.setTask id .dropped⟩, hshows.cycles, ?_⟩
  exact hshows.metrics.trans (Metrics.map_noteAll_nil _)

/-! ## Every step of a cycle -/

/-- A task that a move puts in its place stands there. -/
theorem Does.getElem?_setTask {job : Job} {task : Task} {s' : Service δ Env}
    (hdoes : Does s span job task s') (hid : s.tasks[id]? = some (.running span job)) :
    (s'.setTask id task).tasks[id]? = some task := by
  have hlt : id < s'.tasks.length := by
    rw [hdoes.tasks_eq]
    exact (List.getElem?_eq_some_iff.mp hid).1
  exact List.getElem?_set_self hlt

/-- A loop that stops gives up its cycle. -/
theorem cycleGivenUp_of_stopped {next : Instant}
    (hid : s.tasks[id]? = some (.running (some .ticker) (.ticking (.cycling next g))))
    (hsignalled : s.ticker.signalled = true) :
    CycleGivenUp id (some .ticker) s
      ((s.abandonJob (.ticking (.cycling next g))).halt.setTask id (.ended s.now .stopped)) := by
  have hdoes : Does s (some .ticker) (.ticking (.cycling next g)) (.ended s.now .stopped) _ :=
    .stopped (by simp) hsignalled
  have hended := hdoes.getElem?_setTask hid
  have hshows : Shows s (s.abandonJob (.ticking (.cycling next g))).halt
      ⟨[⟨s.now, some .ticker, .tickerStopped⟩], []⟩ := by
    rw [s.abandonJob_eq]
    exact ⟨rfl, (Metrics.map_noteAll_nil _).symm, rfl⟩
  refine ⟨.inr ⟨rfl, hended, hshows.setTask id _⟩, hshows.cycles, ?_⟩
  exact hshows.metrics.trans (Metrics.map_noteAll_nil _)

/-- **One move** of a cycle: it goes on, or completes, or is given up. -/
theorem CycleStands.move (h : CycleStands start id span registry s e g) (part : Part) :
    (∃ g' e', Shows s (s.act (.move id part)) e' ∧
      CycleStands start id span registry (s.act (.move id part)) (e.andThen e') g') ∨
    (∃ r, CycleCompletes start id span e.ended s (s.act (.move id part)) r) ∨
      CycleGivenUp id span s (s.act (.move id part)) := by
  have hact : s.act (.move id part) = s.move id part := rfl
  rw [hact]
  rcases s.move_does id part with hrest | ⟨span', job, task, s', hid', hdoes, heq⟩
  · rw [hrest]
    exact .inl ⟨g, .none, .refl s, by simpa [Effects.andThen, Effects.none] using h⟩
  rw [heq]
  have hplace := hdoes.getElem?_setTask hid'
  have hunderWay := h.underWay
  cases hunderWay with
  | call hid =>
      cases hid.symm.trans hid'
      cases hdoes with
      | rest =>
          rw [setTask_self hid]
          exact .inl ⟨g, .none, .refl s, by simpa [Effects.andThen, Effects.none] using h⟩
      | lane purpose g n =>
          obtain ⟨e', hshows, hstands⟩ := h.moveLane n
          exact .inl ⟨_, e', hshows.setTask id _, hstands _ (.call hplace)⟩
      | report purpose hresults =>
          exact .inr (.inl ⟨_, h.completes hresults rfl (.call hplace)⟩)
  | @loop _ next hid =>
      cases hid.symm.trans hid'
      cases hdoes with
      | rest =>
          rw [setTask_self hid]
          exact .inl ⟨g, .none, .refl s, by simpa [Effects.andThen, Effects.none] using h⟩
      | cycleLane next g n =>
          obtain ⟨e', hshows, hstands⟩ := h.moveLane n
          exact .inl ⟨_, e', hshows.setTask id _, hstands _ (.loop hplace)⟩
      | cycle next hresults =>
          exact .inr (.inl ⟨_, h.completes hresults rfl (.loop hplace)⟩)
      | stopped hl hsignalled =>
          exact .inr (.inr (cycleGivenUp_of_stopped hid hsignalled))

/-- What others do changes nothing about a cycle. -/
theorem CycleStands.other (h : CycleStands start id span registry s e g) {a : Action δ}
    (ha : ¬a.IsOf id) : CycleStands start id span registry (s.act a) e g := by
  have hstays : ∀ task, s.tasks[id]? = some task → (s.act a).tasks[id]? = some task := by
    intro task hid
    rcases act_getElem? hid a with hsame | ⟨part, _, _, _, hmove, _⟩ | ⟨hdrop, _⟩
    · exact hsame
    · exact absurd (.inl ⟨part, hmove⟩) ha
    · exact absurd (.inr hdrop) ha
  have hunderWay : (s.act a).UnderWay id span g := by
    cases h.underWay with
    | call hid => exact .call (hstays _ hid)
    | loop hid => exact .loop (hstays _ hid)
  exact ⟨hunderWay, h.lanes, h.told, h.ended⟩

/-- A cycle that begins has done nothing yet. -/
theorem CycleBegins.stands {s₀ : Service δ Env} (h : CycleBegins s id span s₀) :
    ∃ g, CycleStands s.now id span s.registry s₀ .none g := by
  have hlanes : ∀ deadline, List.Forall₂ (Lane.Since s.now) s.registry.all
      (Gathering.start s.prober s.registry deadline s.now).lanes := by
    intro deadline
    rw [Gathering.start, List.forall₂_map_right_iff, List.forall₂_same]
    exact fun entry _ => ⟨rfl, rfl⟩
  have hnone : ∀ deadline, (Gathering.start s.prober s.registry deadline s.now).lanes.filterMap
      (Lane.ending? s.now) = [] := by
    intro deadline
    rw [Gathering.start, List.filterMap_map, List.filterMap_eq_nil_iff]
    exact fun entry _ => rfl
  cases h with
  | call =>
      refine ⟨_, .call (g := .start s.prober s.registry (s.now + s.ticker.budget) s.now) ?_,
        hlanes _, by simp [Effects.none], ?_⟩
      · exact List.getElem?_concat_length
      · rw [hnone]
        exact .refl _
  | @tick _ span next hid hdue =>
      have hdoes : Does s span (.ticking (.idle next)) _ s := .tick hdue
      have hact : s.act (.move id .whole) = s.setTask id (.running (some .ticker) (.ticking
          (.cycling (s.now + s.ticker.interval)
            (.start s.prober s.registry (s.now + s.ticker.budget) s.now)))) := by
        simp only [act, Service.move, hid, moveJob, moveLoop, if_pos hdue]
      rw [hact]
      refine ⟨_, .loop (hdoes.getElem?_setTask hid), hlanes _, by simp [Effects.none], ?_⟩
      rw [hnone]
      exact .refl _

/-- **A cycle does all or nothing.**  Let a cycle begin, as a call or in the ticker's loop, and
let anything happen after that.  Until it is over it has told of its probes only and recorded
those that have ended.  It is over by one of its own moves: either it completes, tells a line
for each dependency of its report and then their sum, and is counted once, all at the instant
of its end; or it is given up, tells nothing of the kind and is not counted. -/
theorem cycle_all_or_nothing {s₀ : Service δ Env} (hbegins : CycleBegins s id span s₀)
    (actions : List (Action δ)) : CycleCourse s.now id span s.registry s₀ actions := by
  induction actions using List.reverseRecOn with
  | nil =>
      obtain ⟨g, hstands⟩ := hbegins.stands
      exact .goesOn .nil hstands
  | append_singleton actions a ih =>
      cases ih with
      | @goesOn _ e g hshare hstands =>
          by_cases ha : a.IsOf id
          · have hstep : (∃ g' e', Shows (s₀.run actions) ((s₀.run actions).act a) e' ∧
                CycleStands s.now id span s.registry ((s₀.run actions).act a) (e.andThen e') g') ∨
                (∃ r, CycleCompletes s.now id span e.ended (s₀.run actions)
                  ((s₀.run actions).act a) r) ∨
                CycleGivenUp id span (s₀.run actions) ((s₀.run actions).act a) := by
              rcases ha with ⟨part, rfl⟩ | rfl
              · exact hstands.move part
              · exact .inr (.inr hstands.underWay.drop)
            rcases hstep with ⟨g', e', hshows, hstands'⟩ | ⟨r, hcompletes⟩ | hgivenUp
            · rw [← run_concat] at hstands'
              exact .goesOn (hshare.own ha hshows) hstands'
            · exact .completes hshare hstands ha hcompletes
            · exact .givenUp hshare hstands ha hgivenUp
          · have hstands' := hstands.other ha
            rw [← run_concat] at hstands'
            exact .goesOn (hshare.other ha) hstands'
      | completes hshare hstands ha hcompletes =>
          rw [List.append_assoc, List.cons_append]
          exact .completes hshare hstands ha hcompletes
      | givenUp hshare hstands ha hgivenUp =>
          rw [List.append_assoc, List.cons_append]
          exact .givenUp hshare hstands ha hgivenUp

/-- The moves of a cycle on two dependencies, which takes no time. -/
def cycleOfTwo : List (Action Scripted) :=
  [.move 0 (.lane 0), .move 0 (.lane 0), .move 0 (.lane 1), .move 0 (.lane 1), .move 0 .whole]

theorem unlike_cycle_course :
    CycleBegins unlike 0 none (unlike.act .beginCycle) ∧
      CycleCourse unlike.now 0 none unlike.registry (unlike.act .beginCycle) cycleOfTwo ∧
      ((unlike.act .beginCycle).run cycleOfTwo).ticker.cycles = 1 :=
  have hbegins : CycleBegins unlike 0 none (unlike.act .beginCycle) := .call
  ⟨hbegins, cycle_all_or_nothing hbegins cycleOfTwo, rfl⟩

example : (((unlike.act .beginCycle).run cycleOfTwo).told .cycle).map Event.message =
    ["x health check failed", "xun healthy", "Health check complete: 1 healthy, 1 unhealthy"] := by
  decide +kernel

end Service

end HealthWatch
