import HealthWatch.Proofs.ProbeIsolation

/-!
# Reports are made of probes on their own

This file carries `Comes` through runs, to the end of a probe (`ProbeRun`) and to
the end of a report (`ReportRun`), and compares the two in `report_isolated`.

A report ends at the latest of the moments at which its probes end that are left
alone: it is due at once when all its lanes have finished, and until then its clock
does not pass the end of one of them.
-/

namespace HealthWatch.Service

variable {δ Env : Type} [Dependency δ Env] {F : Footprint δ Env} {s s' : Service δ Env}
  {id : Nat} {span : Option Span} {purpose : Purpose} {entries : List (String × Nat)}
  {alone : String × Nat → Option ProbeResult} {start : Instant}

/-! ## A probe as a task -/

/-- Where a probe stands that is a task of its own: it is on its way to `result`, or
has ended with it. -/
inductive Probes (result : Option ProbeResult) (handle id : Nat) (s : Service δ Env) : Prop
  | going {span : Option Span} {p : Probe} (hid : s.tasks[id]? = some (.running span (.probing p)))
      (hhandle : p.handle = handle) (hcomes : s.Comes p result)
  | ended {r : ProbeResult} (hid : s.tasks[id]? = some (.ended r.checkedAt (.probed r)))
      (hresult : result = some r)

/-- The move of a task that probes resumes its probe. -/
theorem moveJob_resumed {p : Probe} {h : Handle δ} (hdue : p.wake ≤ s.now)
    (hh : s.handles[p.handle]? = some h) :
    Resumed s (s.moveJob id span (.probing p) .whole) p h := by
  have hresumed : Resumed s (s.moveProbe span p).1 p h := moveProbe_resumed hh
  simp only [moveJob, if_pos hdue]
  cases hresult : s.moveProbe span p with
  | mk s' progress =>
      rw [hresult] at hresumed
      cases progress <;> exact ⟨hh, hresumed.handles, hresumed.env, hresumed.prober, hresumed.now⟩

/-- A probe stays on its way, whatever happens that is quiet. -/
theorem Probes.act {result : Option ProbeResult} {handle : Nat} {a : Action δ}
    (h : Probes result handle id s) (hs : s.Sound) (hhandle : handle < s.handles.length)
    (ha : a ≠ .drop id) (hquiet : a.MayCall id → (s.act a).sight F handle = s.sight F handle) :
    Probes result handle id (s.act a) := by
  cases h with
  | ended hid hresult =>
      rcases act_getElem? hid a with hsame | ⟨_, _, _, _, _, htask, _⟩ | ⟨hdrop, _⟩
      · exact .ended hsame hresult
      · cases htask
      · exact absurd hdrop ha
  | @going span p hid hp hcomes =>
      rcases act_probing hs hid ha with ⟨hsame, hrest⟩ | ⟨rfl, hwake, h, hh, hid'⟩
      · by_cases hmove : ∃ part, a = .move id part
        · obtain ⟨part, rfl⟩ := hmove
          rw [act_resting hid fun h => hrest ⟨h.1 ▸ rfl, h.2⟩]
          exact .going hid hp hcomes
        · have hsight : (s.act a).sight F handle = s.sight F handle := by
            by_cases hcalls : a.MayCall id
            · exact hquiet hcalls
            · exact sight_act hhandle (fun part ha => hmove ⟨part, ha⟩) hcalls
          subst hp
          exact .going hsame rfl (hcomes.of_sight (Continues.act s a).prober hsight)
      · have hdue := Nat.le_of_eq hwake
        have hact : s.act (.move id .whole) = s.moveJob id span (.probing p) .whole := by
          simp only [Service.act, move, hid]
        have hresumed : Resumed s (s.moveJob id span (.probing p) .whole) p h :=
          moveJob_resumed hdue hh
        rw [← hact] at hresumed
        have hnext := hcomes.resume hresumed (hs.jobs id span _ hid) hdue
        cases hprogress : (p.resume s.prober s.now h s.env).progress with
        | going q =>
            rw [hprogress] at hnext hid'
            obtain ⟨stage, _, rfl⟩ := Probe.resume_going hprogress
            exact .going hid' hp hnext
        | done finding =>
            rw [hprogress] at hnext hid'
            exact .ended (r := ⟨finding, s.now⟩) hid' hnext

theorem Probes.run {result : Option ProbeResult} {e : String × Nat}
    {actions : List (Action δ)} (h : Probes result e.2 id s) (hs : s.Sound)
    (hhandle : e.2 < s.handles.length) (hquiet : Quiet F id [e] s actions) :
    Probes result e.2 id (s.run actions) := by
  induction actions generalizing s with
  | nil => exact h
  | cons a actions ih =>
      obtain ⟨⟨ha, hcalls⟩, hrest⟩ := hquiet
      have hnext := h.act hs hhandle ha fun hcall => hcalls hcall e (List.mem_singleton_self e)
      exact ih hnext (hs.act a)
        (Nat.lt_of_lt_of_le hhandle (Continues.act s a).handles_length) hrest

/-! ## A report as a task -/

/-- The latest of `start` and the moments at which the probes of `entries` end that
are left alone. -/
structure Latest (alone : String × Nat → Option ProbeResult) (entries : List (String × Nat))
    (start time : Instant) : Prop where
  start_le : start ≤ time
  result_le : ∀ e ∈ entries, ∀ r, alone e = some r → r.checkedAt ≤ time
  attained : time = start ∨ ∃ e ∈ entries, ∃ r, alone e = some r ∧ time = r.checkedAt

/-- The clock is not past all of `start` and the ends of these probes. -/
def Reached (alone : String × Nat → Option ProbeResult) (entries : List (String × Nat))
    (start now : Instant) : Prop :=
  now ≤ start ∨ ∃ e ∈ entries, ∃ r, alone e = some r ∧ now ≤ r.checkedAt

/-- Where a report on `entries` that began at `start` stands: its lanes are on their
way and the clock is not past their end, or it has ended with their results. -/
inductive Gathers (alone : String × Nat → Option ProbeResult) (entries : List (String × Nat))
    (start : Instant) (purpose : Purpose) (id : Nat) (s : Service δ Env) : Prop
  | pending {span : Option Span} {g : Gathering}
      (hid : s.tasks[id]? = some (.running span (.reporting purpose g)))
      (hlanes : List.Forall₂ (s.LaneComes alone) entries g.lanes)
      (hreached : Reached alone entries start s.now)
  | ended {time : Instant} {uptime : Duration} {results : List (String × ProbeResult)}
      (hid : s.tasks[id]? =
        some (.ended time (purpose.outcome ⟨.ofList results, uptime, time⟩)))
      (hlatest : Latest alone entries start time)
      (hresults : List.Forall₂ (fun e x => x.1 = e.1 ∧ alone e = some x.2) entries results)

/-- Time does not pass the end of the lanes of a report. -/
theorem act_reached {g : Gathering} (a : Action δ) (hs : s.Sound)
    (hid : s.tasks[id]? = some (.running span (.reporting purpose g)))
    (hlanes : List.Forall₂ (s.LaneComes alone) entries g.lanes)
    (hreached : Reached alone entries start s.now) :
    Reached alone entries start (s.act a).now := by
  by_cases hpass : ∃ time, a = .pass time
  · obtain ⟨time, rfl⟩ := hpass
    rcases s.pass_spec time with hrest | ⟨hpassed, hfrom, hto⟩
    · have hsame : s.act (.pass time) = s := hrest
      rwa [hsame]
    · have htime : s.act (.pass time) = { s with now := time } := hpassed
      have hle : time ≤ g.wake s.now := hto id span _ _ hid rfl
      rw [htime]
      rcases g.wake_eq s.now with ⟨p, hp, hwake⟩ | ⟨_, hwake⟩
      · obtain ⟨limit, hg⟩ := hs.jobs id span _ hid
        obtain ⟨e, he, _, _, h, hh, halone⟩ := exists_of_forall₂ hlanes hp
        refine .inr ⟨e, he, _, halone, Nat.le_trans (hwake ▸ hle) ?_⟩
        exact Probe.wake_le_finish (hg.lane p hp).1
      · have hsame : time = s.now := Nat.le_antisymm (hwake ▸ hle) hfrom
        subst hsame
        exact hreached
  · rw [act_now fun time ha => hpass ⟨time, ha⟩]
    exact hreached

/-- A report whose lanes have all finished ends at the latest of their ends. -/
theorem latest_of_finished {results : List (String × ProbeResult)} (hstart : start ≤ s.now)
    (hlanes : List.Forall₂ (s.LaneComes alone) entries
      (results.map fun x => .finished x.1 x.2))
    (hreached : Reached alone entries start s.now) :
    Latest alone entries start s.now := by
  have hresult : ∀ e ∈ entries, ∀ r, alone e = some r → r.checkedAt ≤ s.now := by
    intro e he r hr
    obtain ⟨lane, hlane, hcomes⟩ := exists_of_forall₂ hlanes.flip he
    obtain ⟨x, _, rfl⟩ := List.mem_map.mp hlane
    obtain ⟨_, hx, hle⟩ := hcomes
    rw [hr] at hx
    cases hx
    exact hle
  refine ⟨hstart, hresult, ?_⟩
  rcases hreached with hle | ⟨e, he, r, hr, hle⟩
  · exact .inl (Nat.le_antisymm hle hstart)
  · exact .inr ⟨e, he, r, hr, Nat.le_antisymm hle (hresult e he r hr)⟩

/-- What holds of a report all along its run. -/
structure ReportHolds (F : Footprint δ Env) (alone : String × Nat → Option ProbeResult)
    (entries : List (String × Nat)) (start : Instant) (purpose : Purpose) (id : Nat)
    (s : Service δ Env) : Prop where
  gathers : Gathers alone entries start purpose id s
  sound : s.Sound
  start_le : start ≤ s.now
  handle_lt : ∀ e ∈ entries, e.2 < s.handles.length
  independent : Independent F s entries

/-- A report stays on its way, whatever happens that is quiet. -/
theorem ReportHolds.act {a : Action δ} (h : ReportHolds F alone entries start purpose id s)
    (hnodup : entries.Nodup) (ha : a ≠ .drop id)
    (hquiet : a.MayCall id → ∀ e ∈ entries, (s.act a).sight F e.2 = s.sight F e.2) :
    ReportHolds F alone entries start purpose id (s.act a) := by
  obtain ⟨hgathers, hs, hstart, hhandles, hindependent⟩ := h
  have hcontinues := Continues.act s a
  refine ⟨?_, hs.act a, Nat.le_trans hstart hcontinues.now_le,
    fun e he => Nat.lt_of_lt_of_le (hhandles e he) hcontinues.handles_length,
    hindependent.continues hhandles hcontinues⟩
  cases hgathers with
  | pending hid hlanes hreached =>
      have hreached' := act_reached a hs hid hlanes hreached
      rcases act_lanesCome hs hid hlanes hindependent hnodup hhandles ha hquiet with
        ⟨g', hid', hlanes'⟩ | ⟨results, hresults, hid'⟩
      · exact .pending hid' hlanes' hreached'
      · rw [Gathering.results?_eq_some_iff.mp hresults] at hlanes
        refine .ended hid' (latest_of_finished hstart hlanes hreached) ?_
        rw [List.forall₂_map_right_iff] at hlanes
        exact hlanes.imp fun e x ⟨hname, hresult, _⟩ => ⟨hname, hresult⟩
  | ended hid hlatest hresults =>
      rcases act_getElem? hid a with hsame | ⟨_, _, _, _, _, htask, _⟩ | ⟨hdrop, _⟩
      · exact .ended hsame hlatest hresults
      · cases htask
      · exact absurd hdrop ha

theorem ReportHolds.run {actions : List (Action δ)}
    (h : ReportHolds F alone entries start purpose id s) (hnodup : entries.Nodup)
    (hquiet : Quiet F id entries s actions) :
    ReportHolds F alone entries start purpose id (s.run actions) := by
  induction actions generalizing s with
  | nil => exact h
  | cons a actions ih => exact ih (h.act hnodup hquiet.1.1 hquiet.1.2) hquiet.2

/-! ## The report at the end -/

/-- Names that are distinct make a report that lists them and answers for each of them
what was found. -/
theorem dependencies_of_results {registry : Registry} {results : List (String × ProbeResult)}
    (hperm : entries.Perm registry.all)
    (hresults : List.Forall₂ (fun e x => x.1 = e.1 ∧ alone e = some x.2) entries results) :
    (NameMap.ofList results).names = registry.names ∧
      ∀ e ∈ registry.all, (NameMap.ofList results).get? e.1 = alone e := by
  have hnames : entries.map Prod.fst = results.map Prod.fst := by
    rw [← List.forall₂_eq_eq_eq, List.forall₂_map_left_iff, List.forall₂_map_right_iff]
    exact hresults.imp fun e x h => h.1.symm
  have hdistinct : results.Pairwise fun a b => a.1 ≠ b.1 := by
    have hnodup : registry.names.Nodup := registry.handles.names_increasing.imp NameMap.ne_of_lt
    have hnodup' := (hperm.map Prod.fst).nodup_iff.mpr hnodup
    rw [hnames, List.Nodup, List.pairwise_map] at hnodup'
    exact hnodup'
  have hget : ∀ e ∈ registry.all, (NameMap.ofList results).get? e.1 = alone e := by
    intro e he
    obtain ⟨x, hx, hname, halone⟩ := exists_of_forall₂ hresults.flip (hperm.mem_iff.mpr he)
    rw [NameMap.get?_ofList hdistinct, halone]
    exact NameMap.answer_of_mem hdistinct (hname ▸ hx)
  refine ⟨NameMap.names_eq fun name => ?_, hget⟩
  rw [Bool.eq_iff_iff, Option.isSome_iff_exists, Option.isSome_iff_exists]
  constructor
  · rintro ⟨result, hresult⟩
    rw [NameMap.get?_ofList hdistinct] at hresult
    obtain ⟨e, he, hname, _⟩ := exists_of_forall₂ hresults (NameMap.mem_of_answer hresult)
    refine ⟨e.2, NameMap.get?_eq_some_iff.mpr ?_⟩
    rw [show name = e.1 from hname]
    exact hperm.mem_iff.mp he
  · rintro ⟨handle, hhandle⟩
    have he := NameMap.get?_eq_some_iff.mp hhandle
    obtain ⟨x, _, _, halone⟩ := exists_of_forall₂ hresults.flip (hperm.mem_iff.mpr he)
    exact ⟨x.2, (hget _ he).trans halone⟩

/-- The service in which a report on what `s` has registered begins, listed in
`order`, after `told` has been told. -/
def beginReportIn (s : Service δ Env) (order : List (String × Nat)) (told : List Event)
    (span : Option Span) (purpose : Purpose) (deadline : Instant) : Service δ Env :=
  (s.tell span told).spawn span
    (.reporting purpose (.ofEntries s.prober order deadline s.now))

/-- A run after a report has begun in `s`: the registry is listed in any order, and
anything happens that is quiet. -/
structure ReportRun (F : Footprint δ Env) (s : Service δ Env) (deadline : Instant) where
  order : List (String × Nat)
  told : List Event
  span : Option Span
  purpose : Purpose
  after : List (Action δ)
  perm : order.Perm s.registry.all
  quiet : Quiet F s.tasks.length order (s.beginReportIn order told span purpose deadline) after

/-- A run after a probe of one entry has begun in `s`. -/
structure ProbeRun (F : Footprint δ Env) (s : Service δ Env) (deadline : Instant)
    (e : String × Nat) where
  after : List (Action δ)
  quiet : Quiet F s.tasks.length [e] (s.act (.beginProbe e.1 deadline)) after

variable {deadline : Instant}

/-- The service at the end of the run. -/
def ReportRun.service (R : ReportRun F s deadline) : Service δ Env :=
  (s.beginReportIn R.order R.told R.span R.purpose deadline).run R.after

/-- The service at the end of the run. -/
def ProbeRun.service {e : String × Nat} (P : ProbeRun F s deadline e) : Service δ Env :=
  (s.act (.beginProbe e.1 deadline)).run P.after

omit [Dependency δ Env] in
/-- Reports, cycles and the answers to requests all begin in this way, with the
registry listed by name. -/
theorem begin_eq_beginReportIn (s : Service δ Env) (deadline : Instant) :
    s.beginReport deadline = s.beginReportIn s.registry.all [] none .report deadline ∧
      s.beginCycle = s.beginReportIn s.registry.all [] none .cycle (s.now + s.ticker.budget) ∧
      s.beginRequest = s.beginReportIn s.registry.all [.healthRequested] (some .request) .request
        (s.now + s.prober.ceiling) :=
  ⟨rfl, rfl, rfl⟩

/-- What a report is in which the registry of `s` is listed in any order, as long as it
lasts and at its end. -/
theorem ReportRun.holds (R : ReportRun F s deadline) (hs : s.Sound)
    (hindependent : Independent F s s.registry.all) :
    ReportHolds F (s.aloneResult deadline) R.order s.now R.purpose s.tasks.length R.service := by
  have hmem : ∀ {e}, e ∈ R.order → e ∈ s.registry.all := fun he => R.perm.mem_iff.mp he
  have hhandles : ∀ e ∈ R.order, e.2 < s.handles.length := fun e he => hs.registry e (hmem he)
  have hnodup : R.order.Nodup := by
    refine R.perm.nodup_iff.mpr (s.registry.handles.pairwise_ne.imp ?_)
    rintro a _ hne rfl
    exact hne rfl
  have hid : (s.beginReportIn R.order R.told R.span R.purpose deadline).tasks[s.tasks.length]? =
      some (.running R.span (.reporting R.purpose
        (.ofEntries s.prober R.order deadline s.now))) := by
    simp [beginReportIn, Service.spawn, tell]
  have hlanes : List.Forall₂ (s.LaneComes (s.aloneResult deadline)) R.order
      (Gathering.ofEntries s.prober R.order deadline s.now).lanes := by
    rw [Gathering.ofEntries, List.forall₂_map_right_iff, List.forall₂_same]
    intro e he
    have hh := List.getElem?_eq_getElem (hhandles e he)
    exact ⟨rfl, rfl, _, hh, by simp [aloneResult, hh]⟩
  have hsound : (s.beginReportIn R.order R.told R.span R.purpose deadline).Sound := by
    have htold : (s.tell R.span R.told).Sound := ⟨hs.registry, hs.jobs, hs.loops⟩
    exact htold.spawn ⟨_, .ofEntries hhandles⟩ (by simp)
  have hindependent' : Independent F s R.order :=
    ⟨fun e he e' he' => hindependent.handle_ne e (hmem he) e' (hmem he'),
      fun e he e' he' => hindependent.apart e (hmem he) e' (hmem he')⟩
  refine ReportHolds.run ⟨.pending hid hlanes (.inl (Nat.le_refl _)), hsound, Nat.le_refl _,
    hhandles, ?_⟩ hnodup R.quiet
  exact ⟨hindependent'.handle_ne, hindependent'.apart⟩

/-- What a probe is that begins at `s`, as long as it lasts and at its end. -/
theorem ProbeRun.probes {e : String × Nat} (P : ProbeRun F s deadline e) (hs : s.Sound)
    (he : e ∈ s.registry.all) :
    Probes (s.aloneResult deadline e) e.2 s.tasks.length P.service := by
  have hhandle := hs.registry e he
  have hbegin : s.act (.beginProbe e.1 deadline) =
      s.spawn none (.probing (.start s.prober e.1 e.2 deadline s.now)) := by
    have hname : s.registry.get? e.1 = some e.2 := NameMap.get?_eq_some_iff.mpr he
    simp only [Service.act, beginProbe, hname]
  have hprobes : Probes (s.aloneResult deadline e) e.2 s.tasks.length
      (s.act (.beginProbe e.1 deadline)) := by
    rw [hbegin]
    have hh := List.getElem?_eq_getElem hhandle
    have hid : ∀ job, (s.spawn none job).tasks[s.tasks.length]? = some (.running none job) := by
      simp [Service.spawn]
    exact .going (hid _) rfl ⟨_, hh, by simp [aloneResult, hh, Service.spawn]⟩
  exact hprobes.run (hs.act _) (Nat.lt_of_lt_of_le hhandle (Continues.act s _).handles_length)
    P.quiet

/-- Whatever a probe ends with is what it finds alone. -/
theorem Probes.of_outcome {result : Option ProbeResult} {handle : Nat} {time : Instant}
    {outcome : Outcome} (h : Probes result handle id s)
    (houtcome : s.outcome? id = some (time, outcome)) :
    ∃ r, result = some r ∧ time = r.checkedAt ∧ outcome = .probed r := by
  rw [outcome?_eq_some_iff] at houtcome
  cases h with
  | going hid => cases hid.symm.trans houtcome
  | ended hid hresult =>
      cases hid.symm.trans houtcome
      exact ⟨_, hresult, rfl, rfl⟩

/-- Whatever a report ends with is put together from what probes find alone. -/
theorem Gathers.of_outcome {time : Instant} {outcome : Outcome} {registry : Registry}
    (h : Gathers alone entries start purpose id s) (hperm : entries.Perm registry.all)
    (houtcome : s.outcome? id = some (time, outcome)) :
    Latest alone entries start time ∧ ∃ r, outcome = purpose.outcome r ∧
      r.dependencies.names = registry.names ∧
        ∀ e ∈ registry.all, r.dependency? e.1 = alone e := by
  rw [outcome?_eq_some_iff] at houtcome
  cases h with
  | pending hid => cases hid.symm.trans houtcome
  | ended hid hlatest hresults =>
      cases hid.symm.trans houtcome
      exact ⟨hlatest, _, rfl, dependencies_of_results hperm hresults⟩

/-- The latest moment is one of the entries, in any order. -/
theorem Latest.of_perm {entries' : List (String × Nat)} {time : Instant}
    (h : Latest alone entries start time) (hperm : entries.Perm entries') :
    Latest alone entries' start time where
  start_le := h.start_le
  result_le e he := h.result_le e (hperm.mem_iff.mpr he)
  attained := h.attained.imp id fun ⟨e, he, hr⟩ => ⟨e, hperm.mem_iff.mp he, hr⟩

/-- Past the latest end of its probes a report has ended. -/
theorem Gathers.ended_of_late {time : Instant} (h : Gathers alone entries start purpose id s)
    (hlatest : Latest alone entries start time) (hlate : time < s.now) :
    (s.outcome? id).isSome = true := by
  cases h with
  | pending hid hlanes hreached =>
      rcases hreached with hle | ⟨e, he, r, hr, hle⟩
      · exact absurd (Nat.le_trans hle hlatest.start_le) (Nat.not_le_of_lt hlate)
      · exact absurd (Nat.le_trans hle (hlatest.result_le e he r hr)) (Nat.not_le_of_lt hlate)
  | ended hid => rw [outcome?_eq_some_iff.mpr hid]; rfl

/-- A report under way comes to its end, and one that has ended has. -/
theorem Gathers.ends (h : Gathers alone entries start purpose id s) (hs : s.Sound) :
    ∃ more : List (Action δ), (∀ a ∈ more, a.IsOwn) ∧
      ((s.run more).outcome? id).isSome = true := by
  cases h with
  | pending hid => exact hs.report_ends hid
  | ended hid => exact ended_ends hid

/-- A probe under way comes to its end, and one that has ended has. -/
theorem Probes.ends {result : Option ProbeResult} {handle : Nat} (h : Probes result handle id s)
    (hs : s.Sound) :
    ∃ more : List (Action δ), (∀ a ∈ more, a.IsOwn) ∧
      ((s.run more).outcome? id).isSome = true := by
  cases h with
  | going hid => exact hs.probe_ends hid
  | ended hid => exact ended_ends hid

theorem outcome_injective {r r' : Report} (h : purpose.outcome r = purpose.outcome r') :
    r = r' := by
  cases purpose <;> cases h <;> rfl

/-- What the task of the run has ended with. -/
def ReportRun.outcome? (R : ReportRun F s deadline) : Option (Instant × Outcome) :=
  R.service.outcome? s.tasks.length

/-- What the task of the run has ended with. -/
def ProbeRun.outcome? {e : String × Nat} (P : ProbeRun F s deadline e) :
    Option (Instant × Outcome) :=
  P.service.outcome? s.tasks.length

/-- **Probes of one report are isolated.**  Let the handles of a reachable service be
distinct and independent.  Every report that begins now, in whatever order it lists the
registry, has just the names that are registered now, answers each with what probing
its dependency alone finds, and ends at the latest of the moments at which those probes
end.  A probe that is a task of its own ends with what probing alone finds.  And if
another service looks the same to the dependency of one name, the reports of both
services have the same entry for that name, whatever the others do. -/
theorem report_isolated (F : Footprint δ Env) {s : Service δ Env} (hs : s.Reachable)
    (hindependent : Independent F s s.registry.all) (deadline : Instant) :
    (∀ R : ReportRun F s deadline,
      (∀ time outcome, R.outcome? = some (time, outcome) →
        Latest (s.aloneResult deadline) s.registry.all s.now time ∧
          ∃ r, outcome = R.purpose.outcome r ∧ r.dependencies.names = s.registry.names ∧
            ∀ e ∈ s.registry.all, r.dependency? e.1 = s.aloneResult deadline e) ∧
      (∀ time, Latest (s.aloneResult deadline) s.registry.all s.now time →
        time < R.service.now → R.outcome?.isSome = true) ∧
      ∃ more : List (Action δ), (∀ a ∈ more, a.IsOwn) ∧
        ((R.service.run more).outcome? s.tasks.length).isSome = true) ∧
    (∀ e ∈ s.registry.all, ∃ result, s.aloneResult deadline e = some result ∧
      ∀ P : ProbeRun F s deadline e,
        (∀ time outcome, P.outcome? = some (time, outcome) →
          time = result.checkedAt ∧ outcome = .probed result) ∧
        ∃ more : List (Action δ), (∀ a ∈ more, a.IsOwn) ∧
          ((P.service.run more).outcome? s.tasks.length).isSome = true) ∧
    ∀ s' : Service δ Env, s'.Reachable → Independent F s' s'.registry.all →
      s'.prober = s.prober → s'.now = s.now →
      ∀ e ∈ s.registry.all, ∀ e' ∈ s'.registry.all, e'.1 = e.1 →
        s'.sight F e'.2 = s.sight F e.2 →
        ∀ (R : ReportRun F s deadline) (R' : ReportRun F s' deadline) (time time' : Instant)
          (r r' : Report), R.outcome? = some (time, R.purpose.outcome r) →
          R'.outcome? = some (time', R'.purpose.outcome r') →
          r'.dependency? e.1 = r.dependency? e.1 := by
  have hreport : ∀ {s : Service δ Env} (_ : s.Reachable) (_ : Independent F s s.registry.all)
      (R : ReportRun F s deadline) (time : Instant) (outcome : Outcome),
      R.outcome? = some (time, outcome) →
        Latest (s.aloneResult deadline) s.registry.all s.now time ∧
          ∃ r, outcome = R.purpose.outcome r ∧ r.dependencies.names = s.registry.names ∧
            ∀ e ∈ s.registry.all, r.dependency? e.1 = s.aloneResult deadline e := by
    intro s hs hindependent R time outcome houtcome
    have hholds := R.holds hs.sound hindependent
    obtain ⟨hlatest, hr⟩ := hholds.gathers.of_outcome R.perm houtcome
    exact ⟨hlatest.of_perm R.perm, hr⟩
  refine ⟨fun R => ⟨hreport hs hindependent R, ?_, ?_⟩, ?_, ?_⟩
  · intro time hlatest hlate
    exact (R.holds hs.sound hindependent).gathers.ended_of_late (hlatest.of_perm R.perm.symm) hlate
  · have hholds := R.holds hs.sound hindependent
    exact hholds.gathers.ends hholds.sound
  · intro e he
    have hh := List.getElem?_eq_getElem (hs.sound.registry e he)
    obtain ⟨result, hresult⟩ : ∃ result, s.aloneResult deadline e = some result :=
      ⟨_, by rw [aloneResult, hh]; rfl⟩
    refine ⟨result, hresult, fun P => ⟨fun time outcome houtcome => ?_, ?_⟩⟩
    · obtain ⟨r, hr, htime, houtcome⟩ := (P.probes hs.sound he).of_outcome houtcome
      cases hresult.symm.trans hr
      exact ⟨htime, houtcome⟩
    · exact (P.probes hs.sound he).ends ((hs.sound.act _).run _)
  · intro s' hs' hindependent' hprober hnow e he e' he' hname hsight R R' time time' r r' hr hr'
    obtain ⟨_, r₁, houtcome, _, hentries⟩ := hreport hs hindependent R _ _ hr
    obtain ⟨_, r₁', houtcome', _, hentries'⟩ := hreport hs' hindependent' R' _ _ hr'
    rw [outcome_injective houtcome, outcome_injective houtcome', hentries e he, ← hname,
      hentries' e' he']
    exact aloneResult_congr F hprober hnow hsight deadline

/-- A service with a dependency that answers at once and one that never does. -/
def uneven : Service Scripted Unit :=
  (new () .standard 1000 0 none).run
    [.register "cache" (.ofLists [] [] none), .register "db" (.ofLists [.never] [] none)]

theorem uneven_independent : Independent Scripted.footprint uneven uneven.registry.all where
  handle_ne := by decide
  apart _ _ _ _ _ _ _ _ _ := trivial

/-- A report on both, listed the other way round, while a third one is registered. -/
def unevenRun : ReportRun Scripted.footprint uneven 1000 where
  order := [("db", 1), ("cache", 0)]
  told := []
  span := none
  purpose := .report
  after := [.move 0 (.lane 0), .register "queue" (.ofLists [.never] [] none), .move 0 (.lane 1),
    .move 0 (.lane 1), .pass 1000, .move 0 (.lane 0), .move 0 .whole]
  perm := by decide
  quiet := by
    show Quiet Scripted.footprint 0 _ _ _
    exact .of_calm (by simp [Action.MayCall])

/-- The dependency that never answers leaves the entry of the other one alone. -/
theorem uneven_isolated : ∃ r : Report,
    unevenRun.outcome? = some (1000, .reported r) ∧ r.dependencies.names = ["cache", "db"] ∧
      r.dependency? "cache" = uneven.aloneResult 1000 ("cache", 0) := by
  have h := report_isolated Scripted.footprint ((Reachable.new () .standard 1000 0 none).run _)
    uneven_independent 1000
  obtain ⟨outcome, houtcome⟩ : ∃ outcome, unevenRun.outcome? = some (1000, outcome) := ⟨_, rfl⟩
  obtain ⟨_, r, rfl, hnames, hentries⟩ := (h.1 unevenRun).1 1000 _ houtcome
  exact ⟨r, houtcome, hnames, hentries ("cache", 0) (by decide)⟩

end HealthWatch.Service
