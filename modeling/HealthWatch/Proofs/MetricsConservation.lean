import HealthWatch.Proofs.DependencyAccounts

/-!
# The metrics of a whole run

What `Metrics` shows is compared with the history of what ended.  For one dependency
these are the number of its probes by outcome, how many were timed, the state of the last one
and the latest latency; for all together the reports by status, the sizes of the last report and
the completed cycles (`metrics_conserved`).

What is kept by name is found by a hash of it, and what is counted by name and outcome by a hash
of both.  So the metrics show what is kept together under one hash, under the labels that came
first (`Account.kept`).  For a dependency that shares its hashes with no other this is what its
own probes tell.

Some sharing is plain to see, since labels are hashed as they read one after the other.  A
dependency `x` that fails and a dependency `xun` that answers are counted as two failures of `x`
(`counters_shared`).
-/

namespace HealthWatch.Metrics

open Ending

/-! ## What the metrics show -/

/-- How many probes of a dependency are counted with an outcome. -/
def probeCount (m : Metrics) (name status : String) : Nat := (m.probes.value? (name, status)).getD 0

/-- How many probes of a dependency were timed. -/
def timed (m : Metrics) (name : String) : Nat := (m.durations.value? name).elim 0 (·.count)

/-- Whether a dependency is up, if that is known. -/
def up? (m : Metrics) (name : String) : Option Bool := m.up.value? name

/-- The latency of a dependency, if it has one. -/
def latency? (m : Metrics) (name : String) : Option Float := m.latencies.value? name

/-- How many reports are counted with a status. -/
def reportCount (m : Metrics) (status : Status) : Nat := (m.reports.value? status.text).getD 0

/-- The metrics show of a dependency what an account tells. -/
structure Shows (m : Metrics) (name : String) (a : Account) : Prop where
  /-- Each probe is counted once, with its outcome. -/
  counted : ∀ healthy, m.probeCount name (outcomeText healthy) = a.outcomes healthy
  /-- Each probe is timed once. -/
  timed : m.timed name = a.seconds.length
  /-- The dependency is up as its last probe found it. -/
  up : m.up? name = a.states.getLast?
  /-- The latency is that of the last probe that had one. -/
  latency : m.latency? name = a.latencies.getLast?

/-- Counting adds the length. -/
theorem foldl_count {β : Type} (xs : List β) (n : Nat) :
    xs.foldl (fun n _ => n + 1) n = n + xs.length := by
  induction xs generalizing n with
  | nil => rfl
  | cons x xs ih =>
      rw [List.foldl_cons, ih, List.length_cons]
      omega

/-- Of values that are set one after another, the last one stays. -/
theorem foldl_last {β : Type} (xs : List β) (x : β) :
    xs.foldl (fun _ y => y) x = xs.getLast?.getD x := by
  induction xs using List.reverseRecOn with
  | nil => rfl
  | append_singleton xs y ih => simp

/-- A counter shows how often it is told of. -/
theorem Labelled.count_noteAll {κ : Type} [Labels κ] [DecidableEq κ] (f : Labelled κ Nat Unit)
    (hstart : f.start = 0) (hstep : f.step = fun n _ => n + 1) (l : List Ending) (labels : κ) :
    ((f.series (empty.noteAll l)).value? labels).getD 0 = (f.gathered l labels).length := by
  rw [f.value?_noteAll, hstart, hstep, foldl_count, Nat.zero_add]
  split
  · next hnone => rw [hnone]; rfl
  · rfl

/-- A gauge shows what it is told last. -/
theorem Labelled.last_noteAll {κ β : Type} [Labels κ] [DecidableEq κ] (f : Labelled κ β β)
    (hstep : f.step = fun _ x => x) (l : List Ending) (labels : κ) :
    (f.series (empty.noteAll l)).value? labels = (f.gathered l labels).getLast? := by
  rw [f.value?_noteAll, hstep, foldl_last]
  cases hlast : (f.gathered l labels).getLast? with
  | none => exact if_pos (List.getLast?_eq_none_iff.mp hlast)
  | some x =>
      refine if_neg fun hnil => ?_
      rw [hnil] at hlast
      cases hlast

/-- **The metrics show what is kept**, of every dependency. -/
theorem shows_kept (l : List Ending) (name : String) :
    (empty.noteAll l).Shows name (.kept l name) where
  counted healthy := Labelled.probes.count_noteAll rfl rfl l (name, outcomeText healthy)
  timed := by
    have hvalue := Labelled.durations.value?_noteAll l name
    simp only [Metrics.timed, Account.kept]
    rw [show (empty.noteAll l).durations = Labelled.durations.series (empty.noteAll l) from rfl,
      hvalue]
    split
    · next hnone => rw [hnone]; rfl
    · exact congrArg Histogram.count (Histogram.foldl_observe _)
  up := Labelled.up.last_noteAll rfl l name
  latency := Labelled.latencies.last_noteAll rfl l name

theorem reportCount_noteAll (l : List Ending) (status : Status) :
    (empty.noteAll l).reportCount status = (Ending.reports l).countP (·.status = status) :=
  (Labelled.reports.count_noteAll rfl rfl l status.text).trans
    (Labelled.length_gathered_reports l status)

/-! ## All together -/

/-- The metrics tell of a history what it says itself. -/
structure Conserved (m : Metrics) (l : List Ending) : Prop where
  /-- Of every dependency they show what is kept under its name and its outcomes. -/
  kept : ∀ name, m.Shows name (.kept l name)
  /-- Every probe is counted once, with its outcome. -/
  counted : ∀ name healthy, OutcomeAlone l name healthy →
    m.probeCount name (outcomeText healthy) = (probesOf name l).countP (·.isHealthy = healthy)
  /-- Every probe is timed once. -/
  timed : ∀ name, NameAlone l name → m.timed name = (probesOf name l).length
  /-- So it is counted as often as it is timed. -/
  sum : ∀ name, NameAlone l name → (∀ healthy, OutcomeAlone l name healthy) →
    m.probeCount name "healthy" + m.probeCount name "unhealthy" = m.timed name
  /-- A dependency is up as its last probe found it. -/
  up : ∀ name, NameAlone l name →
    m.up? name = (probesOf name l).getLast?.map (·.isHealthy)
  /-- The latency is that of the last probe that had one. -/
  latency : ∀ name, NameAlone l name →
    m.latency? name = ((probesOf name l).filterMap (·.latency?)).getLast?
  /-- Every report is counted once, with its status. -/
  reports : ∀ status, m.reportCount status = (Ending.reports l).countP (·.status = status)
  /-- The sizes are those of the last report. -/
  sizes : (m.healthy, m.total) =
    (((Ending.reports l).getLast?.map fun r => (r.healthyCount, r.total)).getD (0, 0))
  /-- Every completed cycle is counted once. -/
  cycles : m.cycles = Ending.cycles l

theorem sizes_noteAll (l : List Ending) :
    ((empty.noteAll l).healthy, (empty.noteAll l).total) =
      (((Ending.reports l).getLast?.map fun r => (r.healthyCount, r.total)).getD (0, 0)) := by
  induction l using List.reverseRecOn with
  | nil => rfl
  | append_singleton l e ih =>
      rw [noteAll_snoc, Ending.reports, List.filterMap_append, ← Ending.reports]
      cases e with
      | probe n finding elapsed => simpa [note, recordProbe] using ih
      | report r => simp [note, recordReport]
      | cycle => simpa [note, recordCycle] using ih

theorem cycles_noteAll (l : List Ending) : (empty.noteAll l).cycles = Ending.cycles l := by
  induction l using List.reverseRecOn with
  | nil => rfl
  | append_singleton l e ih =>
      rw [noteAll_snoc, Ending.cycles_append]
      cases e with
      | probe n finding elapsed => exact ih
      | report r => exact ih
      | cycle => exact congrArg (· + 1) ih

/-- Every probe is timed. -/
theorem length_secondsOf (name : String) (l : List Ending) :
    (secondsOf name l).length = (probesOf name l).length := by
  rw [secondsOf, probesOf, List.length_filterMap_eq_countP, List.length_filterMap_eq_countP]
  refine List.countP_congr fun e _ => ?_
  cases e with
  | probe n finding elapsed => by_cases hname : n = name <;> simp [hname]
  | report r => simp
  | cycle => simp

theorem conserved_noteAll (l : List Ending) : Conserved (empty.noteAll l) l := by
  have hcounted : ∀ name healthy, OutcomeAlone l name healthy →
      (empty.noteAll l).probeCount name (outcomeText healthy) =
        (probesOf name l).countP (·.isHealthy = healthy) := fun name healthy halone =>
    ((shows_kept l name).counted healthy).trans (Account.outcomes_kept halone)
  have htimed : ∀ name, NameAlone l name →
      (empty.noteAll l).timed name = (probesOf name l).length := by
    intro name halone
    rw [(shows_kept l name).timed, Account.seconds_kept halone]
    exact length_secondsOf name l
  refine ⟨shows_kept l, hcounted, htimed, ?_, ?_, ?_, reportCount_noteAll l, sizes_noteAll l,
    cycles_noteAll l⟩
  · intro name hname houtcome
    have hhealthy : (empty.noteAll l).probeCount name "healthy" =
        (probesOf name l).countP (·.isHealthy = true) := hcounted name true (houtcome true)
    have hunhealthy : (empty.noteAll l).probeCount name "unhealthy" =
        (probesOf name l).countP (·.isHealthy = false) := hcounted name false (houtcome false)
    rw [hhealthy, hunhealthy, htimed name hname,
      List.length_eq_countP_add_countP (·.isHealthy = true)]
    simp
  · intro name halone
    rw [(shows_kept l name).up, Account.states_kept halone]
    exact List.getLast?_map
  · intro name halone
    rw [(shows_kept l name).latency, Account.latencies_kept halone]
    rfl

end HealthWatch.Metrics

namespace HealthWatch.Service

variable {δ Env : Type} [Dependency δ Env] {s : Service δ Env}

/-- **Conservation.**  Let nothing be recorded yet and no cycle be completed.  Then, after
whatever happens, with any tasks under way or dropped, the metrics tell of exactly what
ended, and the cycles that they count are those that the ticker counts. -/
theorem metrics_conserved (hmetrics : s.metrics = some .empty) (hcycles : s.ticker.cycles = 0)
    (actions : List (Action δ)) :
    ∃ m, (s.run actions).metrics = some m ∧ m.Conserved (observed endings s actions) ∧
      m.cycles = (s.run actions).ticker.cycles := by
  have hconserved := Metrics.conserved_noteAll (observed endings s actions)
  refine ⟨_, ?_, hconserved, ?_⟩
  · rw [run_metrics, hmetrics]
    rfl
  · rw [run_cycles, hcycles, Nat.zero_add]
    exact hconserved.cycles

/-- A service with a dependency that fails and one that answers, whose labels read alike. -/
def unlike : Service Scripted Unit :=
  (new () .standard 1000 0 (some .empty)).run
    [.register "x" (.ofLists [.after 0 (.error .closed)] [] none),
      .register "xun" (.ofLists [.after 0 (.ok ())] [] none)]

/-- A report, lane by lane. -/
def reportOfTwo : List (Action Scripted) :=
  [.beginReport 1000, .move 0 (.lane 0), .move 0 (.lane 0), .move 0 (.lane 1),
    .move 0 (.lane 1), .move 0 .whole]

theorem unlike_conserved :
    (unlike.metrics = some .empty ∧ unlike.ticker.cycles = 0) ∧
      ∃ m, (unlike.run reportOfTwo).metrics = some m ∧
        m.Conserved (observed endings unlike reportOfTwo) ∧
        m.cycles = (unlike.run reportOfTwo).ticker.cycles :=
  ⟨⟨rfl, rfl⟩, metrics_conserved rfl rfl reportOfTwo⟩

/-- Both probes are timed under their own names, and both are counted as one dependency's
failures. -/
theorem counters_shared :
    ∃ m, (unlike.run reportOfTwo).metrics = some m ∧ m.timed "x" = 1 ∧ m.timed "xun" = 1 ∧
      m.probeCount "x" "healthy" + m.probeCount "x" "unhealthy" = 2 ∧
      m.probeCount "xun" "healthy" + m.probeCount "xun" "unhealthy" = 0 := by
  refine ⟨_, rfl, ?_, ?_, ?_, ?_⟩ <;> decide +kernel

end HealthWatch.Service
