import HealthWatch.Proofs.MetricsHistory
import HealthWatch.Proofs.SharedSeries

/-!
# What is kept of a dependency

Metrics are kept in families of series, by name or by name and outcome, and every family changes
in the same way: an ending tells it something under some labels, or nothing (`Labelled`).  So a
family after a history is what its updates make of it (`Labelled.series_noteAll`).

Of one dependency, what is kept under its name may tell also of others whose names have the same
hash, and nothing at all if one of these came first (`Account.kept`).  Where hashes are apart it
is what the probes of this dependency tell, and no others (`Account.kept_eq_own`).
-/

namespace HealthWatch

/-! ## What a history tells -/

namespace Ending

/-- What the probes of one dependency found. -/
def probesOf (name : String) (l : List Ending) : List Finding :=
  l.filterMap fun
    | .probe n finding _ => if n = name then some finding else none
    | _ => none

/-- How long the probes of one dependency took, in seconds. -/
def secondsOf (name : String) (l : List Ending) : List Float :=
  l.filterMap fun
    | .probe n _ elapsed => if n = name then some elapsed.toSeconds else none
    | _ => none

/-- The name and the outcome of a probe. -/
def labels? : Ending → Option (String × String)
  | .probe name finding _ => some (name, finding.statusText)
  | _ => none

/-- The names and the outcomes of all probes. -/
def probed (l : List Ending) : List (String × String) := l.filterMap labels?

/-- The reports that were finished. -/
def reports (l : List Ending) : List Report :=
  l.filterMap fun
    | .report r => some r
    | _ => none

end Ending

/-- The word for an outcome. -/
def outcomeText (healthy : Bool) : String := if healthy then "healthy" else "unhealthy"

theorem statusText_eq (finding : Finding) : finding.statusText = outcomeText finding.isHealthy := by
  cases finding <;> rfl

theorem outcomeText_injective {x y : Bool} (h : outcomeText x = outcomeText y) : x = y := by
  revert h
  cases x <;> cases y <;> decide

/-- A histogram of values: each bucket counts those up to its bound. -/
theorem Histogram.foldl_observe (values : List Float) :
    values.foldl observe .empty = ⟨bounds.map fun bound => values.countP (· ≤ bound),
      values.foldl (· + ·) 0, values.length⟩ := by
  induction values using List.reverseRecOn with
  | nil => rfl
  | append_singleton values value ih =>
      have hbuckets : List.zipWith (fun bound n => if value ≤ bound then n + 1 else n) bounds
          (bounds.map fun bound => values.countP (· ≤ bound)) =
          bounds.map fun bound => (values ++ [value]).countP (· ≤ bound) := by
        rw [List.zipWith_map_right, List.zipWith_self]
        refine List.map_congr_left fun bound _ => ?_
        by_cases hvalue : value ≤ bound <;> simp [hvalue]
      rw [List.foldl_append, List.foldl_append, ih, List.length_append]
      simp only [List.foldl_cons, List.foldl_nil, observe, hbuckets]
      rfl

namespace Metrics

open Ending

theorem noteAll_snoc (m : Metrics) (l : List Ending) (e : Ending) :
    m.noteAll (l ++ [e]) = (m.noteAll l).note e := by
  rw [noteAll_append]
  rfl

/-! ## Families with labels -/

/-- A family with labels: how its series start, and how one changes by what is told of an
ending. -/
structure Labelled (κ α β : Type) [Labels κ] where
  series : Metrics → SeriesMap κ α
  start : α
  step : α → β → α
  /-- What is told of an ending, and under which labels. -/
  told : Ending → Option (κ × β)
  series_empty : series empty = .empty
  series_note : ∀ m e, series (m.note e) =
    match told e with
    | some u => (series m).update u.1 start (step · u.2)
    | none => series m

namespace Labelled

/-- The counters of probes. -/
def probes : Labelled (String × String) Nat Unit where
  series := Metrics.probes
  start := 0
  step n _ := n + 1
  told
    | .probe name finding _ => some ((name, finding.statusText), ())
    | _ => none
  series_empty := rfl
  series_note m e := by cases e <;> rfl

/-- The times of probes. -/
def durations : Labelled String Histogram Float where
  series := Metrics.durations
  start := .empty
  step := Histogram.observe
  told
    | .probe name _ elapsed => some (name, elapsed.toSeconds)
    | _ => none
  series_empty := rfl
  series_note m e := by cases e <;> rfl

/-- The states of dependencies. -/
def up : Labelled String Bool Bool where
  series := Metrics.up
  start := false
  step _ healthy := healthy
  told
    | .probe name finding _ => some (name, finding.isHealthy)
    | _ => none
  series_empty := rfl
  series_note m e := by cases e <;> rfl

/-- The latencies of dependencies. -/
def latencies : Labelled String Float Float where
  series := Metrics.latencies
  start := 0
  step _ latency := latency
  told
    | .probe name finding _ => finding.latency?.map fun latency => (name, latency)
    | _ => none
  series_empty := rfl
  series_note m e := by
    cases e with
    | probe name finding elapsed =>
        simp only [note, recordProbe]
        cases finding.latency? <;> rfl
    | report r => rfl
    | cycle => rfl

/-- The counters of reports. -/
def reports : Labelled String Nat Unit where
  series := Metrics.reports
  start := 0
  step n _ := n + 1
  told
    | .report r => some (r.status.text, ())
    | _ => none
  series_empty := rfl
  series_note m e := by cases e <;> rfl

variable {κ α β : Type} [Labels κ]

/-- **A family after a history** is what the updates that the history tells of make of it. -/
theorem series_noteAll (f : Labelled κ α β) (l : List Ending) :
    f.series (empty.noteAll l) = .updateAll f.start f.step (l.filterMap f.told) := by
  induction l using List.reverseRecOn with
  | nil => exact f.series_empty
  | append_singleton l e ih =>
      rw [noteAll_snoc, f.series_note, ih, List.filterMap_append, List.filterMap_cons]
      cases htold : f.told e with
      | none => exact congrArg _ (List.append_nil _).symm
      | some u => exact (SeriesMap.updateAll_snoc _ u).symm

variable [DecidableEq κ]

/-- What the series with some labels tells of. -/
def gathered (f : Labelled κ α β) (l : List Ending) (labels : κ) : List β :=
  SeriesMap.gathered (l.filterMap f.told) labels

/-- What is told under just these labels. -/
def own (f : Labelled κ α β) (l : List Ending) (labels : κ) : List β :=
  l.filterMap fun e => (f.told e).bind fun u => if u.1 = labels then some u.2 else none

theorem value?_noteAll (f : Labelled κ α β) (l : List Ending) (labels : κ) :
    (f.series (empty.noteAll l)).value? labels =
      if f.gathered l labels = [] then none
      else some ((f.gathered l labels).foldl f.step f.start) := by
  rw [series_noteAll, SeriesMap.value?_updateAll]
  rfl

theorem mem_sorted_noteAll (f : Labelled κ α β) {l : List Ending} {labels : κ} {value : α} :
    ⟨labels, value⟩ ∈ (f.series (empty.noteAll l)).sorted ↔
      f.gathered l labels ≠ [] ∧ value = (f.gathered l labels).foldl f.step f.start := by
  rw [SeriesMap.mem_sorted, series_noteAll, SeriesMap.mem_series_updateAll]
  rfl

/-- The series with labels that are unshared tells of what is told under them. -/
theorem gathered_eq_own (f : Labelled κ α β) {l : List Ending} {labels : κ}
    (h : SeriesMap.Unshared (l.filterMap f.told) labels) :
    f.gathered l labels = f.own l labels := by
  rw [gathered, h.gathered_eq, SeriesMap.own, own, List.filter_filterMap, List.map_filterMap]
  congr 1
  funext e
  cases f.told e with
  | none => rfl
  | some u =>
      obtain ⟨other, x⟩ := u
      by_cases hlabels : other = labels <;> simp [hlabels]

/-! ### What is told under a name -/

theorem own_durations (l : List Ending) (name : String) :
    durations.own l name = secondsOf name l := by
  refine congrArg (List.filterMap · l) (funext fun e => ?_)
  cases e <;> rfl

theorem own_up (l : List Ending) (name : String) :
    up.own l name = (probesOf name l).map (·.isHealthy) := by
  rw [own, probesOf, List.map_filterMap]
  refine congrArg (List.filterMap · l) (funext fun e => ?_)
  cases e with
  | probe n finding elapsed => by_cases hname : n = name <;> simp [up, hname]
  | report r => rfl
  | cycle => rfl

theorem own_latencies (l : List Ending) (name : String) :
    latencies.own l name = (probesOf name l).filterMap (·.latency?) := by
  rw [own, probesOf, List.filterMap_filterMap]
  refine congrArg (List.filterMap · l) (funext fun e => ?_)
  cases e with
  | probe n finding elapsed =>
      by_cases hname : n = name <;>
        cases hlatency : finding.latency? <;> simp [latencies, hname, hlatency]
  | report r => rfl
  | cycle => rfl

theorem length_own_probes (l : List Ending) (name : String) (healthy : Bool) :
    (probes.own l (name, outcomeText healthy)).length =
      (probesOf name l).countP (·.isHealthy = healthy) := by
  rw [own, List.length_filterMap_eq_countP, probesOf, List.countP_filterMap]
  refine List.countP_congr fun e _ => ?_
  cases e with
  | probe n finding elapsed =>
      have houtcome : finding.statusText = outcomeText healthy ↔ finding.isHealthy = healthy := by
        rw [statusText_eq]
        exact ⟨outcomeText_injective, congrArg _⟩
      by_cases hname : n = name <;> by_cases hhealthy : finding.isHealthy = healthy <;>
        simp [probes, hname, houtcome, hhealthy]
  | report r => simp [probes]
  | cycle => simp [probes]

/-- Labels of reports have different hashes, so a status is counted by itself. -/
theorem length_gathered_reports (l : List Ending) (status : Status) :
    (reports.gathered l status.text).length = (Ending.reports l).countP (·.status = status) := by
  have hstatus : ∀ a b : Status, labelHash a.text = labelHash b.text → a = b := by
    intro a b
    cases a <;> cases b <;> decide +kernel
  have hunshared : SeriesMap.Unshared (l.filterMap reports.told) status.text := by
    intro _ u hu hhash
    obtain ⟨e, -, htold⟩ := List.mem_filterMap.mp hu
    cases e <;> cases htold
    exact congrArg Status.text (hstatus _ _ hhash)
  rw [gathered_eq_own _ hunshared, own, List.length_filterMap_eq_countP, Ending.reports,
    List.countP_filterMap]
  refine List.countP_congr fun e _ => ?_
  cases e with
  | probe n finding elapsed => simp [reports]
  | report r =>
      have htext : r.status.text = status.text ↔ r.status = status :=
        ⟨fun h => hstatus _ _ (congrArg labelHash h), congrArg _⟩
      by_cases h : r.status = status <;> simp [reports, htext, h]
  | cycle => simp [reports]

end Labelled

/-! ## One dependency -/

/-- What is told of the probes of one dependency. -/
@[ext]
structure Account where
  /-- How many were healthy, and how many were not. -/
  outcomes : Bool → Nat
  /-- How long they took. -/
  seconds : List Float
  /-- Whether they were healthy, one after another. -/
  states : List Bool
  /-- The latencies that they had. -/
  latencies : List Float

namespace Account

/-- What the probes of a dependency tell. -/
def own (l : List Ending) (name : String) : Account where
  outcomes healthy := (probesOf name l).countP (·.isHealthy = healthy)
  seconds := secondsOf name l
  states := (probesOf name l).map (·.isHealthy)
  latencies := (probesOf name l).filterMap (·.latency?)

/-- What is kept under the name of a dependency: also what the probes of others tell that have
the same hash, and nothing if one of them came first. -/
def kept (l : List Ending) (name : String) : Account where
  outcomes healthy := (Labelled.probes.gathered l (name, outcomeText healthy)).length
  seconds := Labelled.durations.gathered l name
  states := Labelled.up.gathered l name
  latencies := Labelled.latencies.gathered l name

end Account

/-- If a dependency was probed, no other one that was has the hash of its name. -/
def NameAlone (l : List Ending) (name : String) : Prop :=
  ∀ x ∈ probed l, x.1 = name → ∀ y ∈ probed l, labelHash y.1 = labelHash name → y.1 = name

/-- If a dependency had an outcome, nothing else that was counted has the hash of its name with
this outcome. -/
def OutcomeAlone (l : List Ending) (name : String) (healthy : Bool) : Prop :=
  ∀ x ∈ probed l, x = (name, outcomeText healthy) →
    ∀ y ∈ probed l, labelHash y = labelHash (name, outcomeText healthy) →
      y = (name, outcomeText healthy)

/-- Probes whose names have the same hash have the same name, and probes whose names and outcomes
have the same hash have the same name and outcome. -/
structure Apart (l : List Ending) : Prop where
  names : ∀ x ∈ probed l, ∀ y ∈ probed l, labelHash y.1 = labelHash x.1 → y.1 = x.1
  outcomes : ∀ x ∈ probed l, ∀ y ∈ probed l, labelHash y = labelHash x → y = x

theorem Apart.nameAlone {l : List Ending} (h : Apart l) (name : String) : NameAlone l name := by
  rintro x hx rfl y hy hhash
  exact h.names x hx y hy hhash

theorem Apart.outcomeAlone {l : List Ending} (h : Apart l) (name : String) (healthy : Bool) :
    OutcomeAlone l name healthy := by
  rintro x hx rfl y hy hhash
  exact h.outcomes _ hx y hy hhash

/-- All that is told under names or outcomes is told of probes, under what `read` reads of
theirs. -/
def Labelled.Reads {κ α β : Type} [Labels κ] (f : Labelled κ α β) (read : String × String → κ) :
    Prop :=
  ∀ e u, f.told e = some u → ∃ x, labels? e = some x ∧ read x = u.1

/-- Labels are unshared if they are the only ones of their hash among what is read of probes. -/
theorem Labelled.Reads.unshared {κ α β : Type} [Labels κ] {f : Labelled κ α β}
    {read : String × String → κ} (hread : f.Reads read) {l : List Ending} {labels : κ}
    (honly : ∀ x ∈ probed l, read x = labels →
      ∀ y ∈ probed l, labelHash (read y) = labelHash labels → read y = labels) :
    SeriesMap.Unshared (l.filterMap f.told) labels := by
  have hprobed : ∀ u ∈ l.filterMap f.told, ∃ x ∈ probed l, read x = u.1 := by
    intro u hu
    obtain ⟨e, he, htold⟩ := List.mem_filterMap.mp hu
    obtain ⟨x, hx, hxread⟩ := hread e u htold
    exact ⟨x, List.mem_filterMap.mpr ⟨e, he, hx⟩, hxread⟩
  intro hmade u hu hhash
  obtain ⟨v, hv, hvlabels⟩ := List.mem_map.mp hmade
  obtain ⟨x, hx, hxread⟩ := hprobed v hv
  obtain ⟨y, hy, hyread⟩ := hprobed u hu
  rw [← hyread] at hhash ⊢
  exact honly x hx (hxread.trans hvlabels) y hy hhash

theorem Labelled.reads_probes : probes.Reads id := by
  intro e u htold
  cases e <;> cases htold
  exact ⟨_, rfl, rfl⟩

theorem Labelled.reads_durations : durations.Reads Prod.fst := by
  intro e u htold
  cases e <;> cases htold
  exact ⟨_, rfl, rfl⟩

theorem Labelled.reads_up : up.Reads Prod.fst := by
  intro e u htold
  cases e <;> cases htold
  exact ⟨_, rfl, rfl⟩

theorem Labelled.reads_latencies : latencies.Reads Prod.fst := by
  intro e u htold
  cases e with
  | probe n finding elapsed =>
      obtain ⟨latency, -, rfl⟩ := Option.map_eq_some_iff.mp htold
      exact ⟨_, rfl, rfl⟩
  | report r => cases htold
  | cycle => cases htold

namespace Account

variable {l : List Ending} {name : String}

theorem outcomes_kept {healthy : Bool} (h : OutcomeAlone l name healthy) :
    (kept l name).outcomes healthy = (own l name).outcomes healthy := by
  have hgathered := Labelled.probes.gathered_eq_own (Labelled.reads_probes.unshared h)
  exact (congrArg List.length hgathered).trans (Labelled.length_own_probes l name healthy)

theorem seconds_kept (h : NameAlone l name) : (kept l name).seconds = (own l name).seconds :=
  (Labelled.durations.gathered_eq_own (Labelled.reads_durations.unshared h)).trans
    (Labelled.own_durations l name)

theorem states_kept (h : NameAlone l name) : (kept l name).states = (own l name).states :=
  (Labelled.up.gathered_eq_own (Labelled.reads_up.unshared h)).trans (Labelled.own_up l name)

theorem latencies_kept (h : NameAlone l name) :
    (kept l name).latencies = (own l name).latencies :=
  (Labelled.latencies.gathered_eq_own (Labelled.reads_latencies.unshared h)).trans
    (Labelled.own_latencies l name)

/-- **Where hashes are apart**, what is kept under a name is what its own probes tell. -/
theorem kept_eq_own (h : Apart l) (name : String) : kept l name = own l name :=
  Account.ext (funext fun healthy => outcomes_kept (h.outcomeAlone name healthy))
    (seconds_kept (h.nameAlone name)) (states_kept (h.nameAlone name))
    (latencies_kept (h.nameAlone name))

end Account

end Metrics

end HealthWatch
