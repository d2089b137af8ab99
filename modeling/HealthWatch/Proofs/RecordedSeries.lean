import HealthWatch.Proofs.ExposedFamilies
import HealthWatch.Proofs.MetricsConservation

/-!
# The samples of a history

What was recorded calls for certain samples (`Recorded`): for each dependency that was probed its
state, the times of its probes and perhaps a latency, and for each outcome that it had a count; for
each status that a report had a count; and three numbers without labels.  The families hold these
samples and no others (`mem_samples_iff`), where of each dependency counts what is kept under its
name and its outcomes.
-/

namespace HealthWatch.Metrics

open Ending

variable {l : List Ending} {s : Sample}

/-! ## What calls for a sample -/

/-- The samples that a history calls for, given what is told of each dependency. -/
inductive Recorded (account : String → Account) (l : List Ending) : Sample → Prop where
  /-- The probes of a dependency that had an outcome. -/
  | probes (name : String) (healthy : Bool) (h : 0 < (account name).outcomes healthy) :
      Recorded account l ⟨"health_probes_total",
        [("dependency", name), ("status", outcomeText healthy)],
        toString ((account name).outcomes healthy)⟩
  /-- How the last probe of a dependency ended. -/
  | up (name : String) (healthy : Bool) (h : (account name).states.getLast? = some healthy) :
      Recorded account l ⟨"health_dependency_up", [("dependency", name)],
        if healthy then "1" else "0"⟩
  /-- The latency of the last probe of a dependency that had one. -/
  | latency (name : String) (latency : Float)
      (h : (account name).latencies.getLast? = some latency) :
      Recorded account l ⟨"health_dependency_latency_ms", [("dependency", name)],
        sampleLayout.write latency⟩
  /-- The probes of a dependency that took no longer than a bound. -/
  | bucket (name : String) (bound : Float) (h : (account name).seconds ≠ [])
      (hbound : bound ∈ Histogram.bounds) :
      Recorded account l ⟨"health_probe_duration_seconds_bucket",
        [("dependency", name), ("le", sampleLayout.write bound)],
        toString ((account name).seconds.countP (· ≤ bound))⟩
  /-- The probes of a dependency, however long they took. -/
  | wholeBucket (name : String) (h : (account name).seconds ≠ []) :
      Recorded account l ⟨"health_probe_duration_seconds_bucket",
        [("dependency", name), ("le", "+Inf")], toString (account name).seconds.length⟩
  /-- How long the probes of a dependency took together. -/
  | sum (name : String) (h : (account name).seconds ≠ []) :
      Recorded account l ⟨"health_probe_duration_seconds_sum", [("dependency", name)],
        sampleLayout.write ((account name).seconds.foldl (· + ·) 0)⟩
  /-- The probes of a dependency that were timed. -/
  | count (name : String) (h : (account name).seconds ≠ []) :
      Recorded account l ⟨"health_probe_duration_seconds_count", [("dependency", name)],
        toString (account name).seconds.length⟩
  /-- The reports that had a status. -/
  | reports (status : Status) (h : 0 < (Ending.reports l).countP (·.status = status)) :
      Recorded account l ⟨"health_reports_total", [("status", status.text)],
        toString ((Ending.reports l).countP (·.status = status))⟩
  /-- The healthy dependencies of the last report. -/
  | healthy : Recorded account l ⟨"health_healthy_dependencies", [],
      toString (((Ending.reports l).getLast?.map (·.healthyCount)).getD 0)⟩
  /-- The dependencies of the last report. -/
  | total : Recorded account l ⟨"health_total_dependencies", [],
      toString (((Ending.reports l).getLast?.map (·.total)).getD 0)⟩
  /-- The completed cycles. -/
  | cycles : Recorded account l ⟨"health_ticker_cycles_total", [], toString (Ending.cycles l)⟩

/-! ## Which samples there are -/

namespace Labelled

variable {κ : Type} [Labels κ] [DecidableEq κ]

/-- The samples of a counter: for all labels that are told of, how often. -/
theorem mem_counterSamples (f : Labelled κ Nat Unit) (hstart : f.start = 0)
    (hstep : f.step = fun n _ => n + 1) {sample : Series κ Nat → Sample} :
    s ∈ (f.series (empty.noteAll l)).sorted.map sample ↔
      ∃ labels, 0 < (f.gathered l labels).length ∧
        s = sample ⟨labels, (f.gathered l labels).length⟩ := by
  have hcount : ∀ labels, (f.gathered l labels).foldl f.step f.start =
      (f.gathered l labels).length := by
    intro labels
    rw [hstart, hstep, foldl_count, Nat.zero_add]
  constructor
  · intro hs
    obtain ⟨⟨labels, count⟩, hc, rfl⟩ := List.mem_map.mp hs
    obtain ⟨htold, rfl⟩ := f.mem_sorted_noteAll.mp hc
    exact ⟨labels, List.length_pos_iff.mpr htold, by rw [hcount]⟩
  · rintro ⟨labels, hpos, rfl⟩
    refine List.mem_map.mpr ⟨_, f.mem_sorted_noteAll.mpr ⟨?_, (hcount labels).symm⟩, rfl⟩
    exact List.length_pos_iff.mp hpos

/-- The samples of a gauge: for all labels that are told of, what is told last. -/
theorem mem_gaugeSamples {β : Type} (f : Labelled κ β β) (hstep : f.step = fun _ x => x)
    {sample : Series κ β → Sample} :
    s ∈ (f.series (empty.noteAll l)).sorted.map sample ↔
      ∃ labels value, (f.gathered l labels).getLast? = some value ∧
        s = sample ⟨labels, value⟩ := by
  constructor
  · intro hs
    obtain ⟨⟨labels, value⟩, hg, rfl⟩ := List.mem_map.mp hs
    obtain ⟨htold, rfl⟩ := f.mem_sorted_noteAll.mp hg
    refine ⟨labels, _, ?_, rfl⟩
    rw [hstep, foldl_last, List.getLast?_eq_some_getLast htold, Option.getD_some]
  · rintro ⟨labels, value, hlast, rfl⟩
    refine List.mem_map.mpr ⟨_, f.mem_sorted_noteAll.mpr ⟨?_, ?_⟩, rfl⟩
    · intro hnil
      rw [hnil] at hlast
      cases hlast
    · rw [hstep, foldl_last, hlast, Option.getD_some]

/-- What tells of some labels is told of an ending. -/
theorem exists_told {α β : Type} (f : Labelled κ α β) {labels : κ}
    (h : f.gathered l labels ≠ []) : ∃ e ∈ l, ∃ x, f.told e = some (labels, x) := by
  obtain ⟨u, hu, rfl⟩ := SeriesMap.mem_of_gathered h
  obtain ⟨e, he, htold⟩ := List.mem_filterMap.mp hu
  exact ⟨e, he, u.2, htold⟩

end Labelled

theorem mem_upSamples : s ∈ (empty.noteAll l).upSamples ↔
    ∃ name healthy, (Account.kept l name).states.getLast? = some healthy ∧ s =
      ⟨"health_dependency_up", dependencyLabel name, if healthy then "1" else "0"⟩ :=
  Labelled.up.mem_gaugeSamples rfl

theorem mem_latencySamples : s ∈ (empty.noteAll l).latencySamples ↔
    ∃ name latency, (Account.kept l name).latencies.getLast? = some latency ∧ s =
      ⟨"health_dependency_latency_ms", dependencyLabel name, sampleLayout.write latency⟩ :=
  Labelled.latencies.mem_gaugeSamples rfl

theorem mem_durationSamples : s ∈ (empty.noteAll l).durationSamples ↔
    ∃ name, (Account.kept l name).seconds ≠ [] ∧
      ((∃ bound ∈ Histogram.bounds, s = ⟨"health_probe_duration_seconds_bucket",
          [("dependency", name), ("le", sampleLayout.write bound)],
          toString ((Account.kept l name).seconds.countP (· ≤ bound))⟩) ∨
        s = ⟨"health_probe_duration_seconds_bucket", [("dependency", name), ("le", "+Inf")],
          toString (Account.kept l name).seconds.length⟩ ∨
        s = ⟨"health_probe_duration_seconds_sum", [("dependency", name)],
          sampleLayout.write ((Account.kept l name).seconds.foldl (· + ·) 0)⟩ ∨
        s = ⟨"health_probe_duration_seconds_count", [("dependency", name)],
          toString (Account.kept l name).seconds.length⟩) := by
  have hlines : ∀ name, s ∈ histogramSamples "health_probe_duration_seconds"
      (dependencyLabel name) ((Account.kept l name).seconds.foldl Histogram.observe .empty) ↔ _ :=
    fun name => mem_histogramSamples
  have hbuckets : ∀ count : Float → Nat, Histogram.bounds.zip (Histogram.bounds.map count) =
      Histogram.bounds.map fun bound => (bound, count bound) := by
    intro count
    rw [List.zip, List.zipWith_map_right, List.zipWith_self]
  simp only [Histogram.foldl_observe, hbuckets, List.mem_map, exists_exists_and_eq_and] at hlines
  constructor
  · intro hs
    obtain ⟨⟨name, h⟩, hh, hs⟩ := List.mem_flatMap.mp hs
    obtain ⟨htimed, rfl⟩ := Labelled.durations.mem_sorted_noteAll.mp hh
    refine ⟨name, htimed, (hlines name).mp ?_⟩
    exact (Histogram.foldl_observe _) ▸ hs
  · rintro ⟨name, htimed, hs⟩
    refine List.mem_flatMap.mpr ⟨_, Labelled.durations.mem_sorted_noteAll.mpr ⟨htimed, rfl⟩, ?_⟩
    exact (Histogram.foldl_observe _).symm ▸ (hlines name).mpr hs

theorem mem_probeSamples : s ∈ (empty.noteAll l).probeSamples ↔
    ∃ name healthy, 0 < (Account.kept l name).outcomes healthy ∧ s =
      ⟨"health_probes_total", [("dependency", name), ("status", outcomeText healthy)],
        toString ((Account.kept l name).outcomes healthy)⟩ := by
  refine (Labelled.probes.mem_counterSamples rfl rfl).trans ⟨?_, ?_⟩
  · rintro ⟨⟨name, status⟩, hpos, rfl⟩
    -- the status that is told with a name is the text of an outcome
    obtain ⟨e, -, x, htold⟩ := Labelled.probes.exists_told (List.length_pos_iff.mp hpos)
    cases e <;> cases htold
    next finding elapsed =>
      rw [statusText_eq] at hpos ⊢
      exact ⟨name, finding.isHealthy, hpos, rfl⟩
  · rintro ⟨name, healthy, hpos, rfl⟩
    exact ⟨(name, outcomeText healthy), hpos, rfl⟩

theorem mem_reportSamples : s ∈ (empty.noteAll l).reportSamples ↔
    ∃ status, 0 < (Ending.reports l).countP (·.status = status) ∧ s =
      ⟨"health_reports_total", [("status", status.text)],
        toString ((Ending.reports l).countP (·.status = status))⟩ := by
  simp only [← Labelled.length_gathered_reports]
  refine (Labelled.reports.mem_counterSamples rfl rfl).trans ⟨?_, ?_⟩
  · rintro ⟨text, hpos, rfl⟩
    obtain ⟨e, -, x, htold⟩ := Labelled.reports.exists_told (List.length_pos_iff.mp hpos)
    cases e <;> cases htold
    next r => exact ⟨r.status, hpos, rfl⟩
  · rintro ⟨status, hpos, rfl⟩
    exact ⟨status.text, hpos, rfl⟩

/-! ## All samples -/

/-- The samples of all families that are exposed. -/
def samples (m : Metrics) : List Sample := m.families.flatMap (·.samples)

/-- A family that is left out has no samples. -/
theorem samples_eq (m : Metrics) : m.samples = m.allFamilies.flatMap (·.samples) := by
  have hleft : ∀ fs : List Family, (fs.filter fun f => !f.samples.isEmpty).flatMap (·.samples) =
      fs.flatMap (·.samples) := by
    intro fs
    induction fs with
    | nil => rfl
    | cons f fs ih =>
        rw [List.filter_cons]
        cases hsamples : f.samples with
        | nil => simp [hsamples, ih]
        | cons s rest => simp [hsamples, ih]
  exact hleft m.allFamilies

theorem mem_samples {m : Metrics} : s ∈ m.samples ↔
    s ∈ m.latencySamples ∨ s ∈ m.upSamples ∨
      s = ⟨"health_healthy_dependencies", [], toString m.healthy⟩ ∨ s ∈ m.durationSamples ∨
      s ∈ m.probeSamples ∨ s ∈ m.reportSamples ∨
      s = ⟨"health_ticker_cycles_total", [], toString m.cycles⟩ ∨
      s = ⟨"health_total_dependencies", [], toString m.total⟩ := by
  simp [samples_eq, allFamilies, single]

/-- **The samples are those that the history calls for**, where of each dependency counts what
is kept under its name and its outcomes. -/
theorem mem_samples_iff :
    s ∈ (empty.noteAll l).samples ↔ Recorded (Account.kept l) l s := by
  have hsizes := sizes_noteAll l
  have hhealthy : (empty.noteAll l).healthy =
      ((Ending.reports l).getLast?.map (·.healthyCount)).getD 0 := by
    have h := congrArg Prod.fst hsizes
    cases hlast : (Ending.reports l).getLast? <;> simpa [hlast] using h
  have htotal : (empty.noteAll l).total =
      ((Ending.reports l).getLast?.map (·.total)).getD 0 := by
    have h := congrArg Prod.snd hsizes
    cases hlast : (Ending.reports l).getLast? <;> simpa [hlast] using h
  rw [mem_samples, mem_latencySamples, mem_upSamples, mem_durationSamples, mem_probeSamples,
    mem_reportSamples, hhealthy, htotal, cycles_noteAll]
  constructor
  · rintro (⟨name, latency, h, rfl⟩ | ⟨name, last, h, rfl⟩ | rfl | ⟨name, h, hs⟩ |
      ⟨name, healthy, h, rfl⟩ | ⟨status, h, rfl⟩ | rfl | rfl)
    · exact .latency name latency h
    · exact .up name last h
    · exact .healthy
    · rcases hs with ⟨bound, hbound, rfl⟩ | rfl | rfl | rfl
      · exact .bucket name bound h hbound
      · exact .wholeBucket name h
      · exact .sum name h
      · exact .count name h
    · exact .probes name healthy h
    · exact .reports status h
    · exact .cycles
    · exact .total
  · intro hs
    cases hs with
    | latency name latency h => exact .inl ⟨name, latency, h, rfl⟩
    | up name last h => exact .inr (.inl ⟨name, last, h, rfl⟩)
    | healthy => exact .inr (.inr (.inl rfl))
    | bucket name bound h hbound =>
        exact .inr (.inr (.inr (.inl ⟨name, h, .inl ⟨bound, hbound, rfl⟩⟩)))
    | wholeBucket name h => exact .inr (.inr (.inr (.inl ⟨name, h, .inr (.inl rfl)⟩)))
    | sum name h => exact .inr (.inr (.inr (.inl ⟨name, h, .inr (.inr (.inl rfl))⟩)))
    | count name h => exact .inr (.inr (.inr (.inl ⟨name, h, .inr (.inr (.inr rfl))⟩)))
    | probes name healthy h =>
        exact .inr (.inr (.inr (.inr (.inl ⟨name, healthy, h, rfl⟩))))
    | reports status h => exact .inr (.inr (.inr (.inr (.inr (.inl ⟨status, h, rfl⟩)))))
    | cycles => exact .inr (.inr (.inr (.inr (.inr (.inr (.inl rfl))))))
    | total => exact .inr (.inr (.inr (.inr (.inr (.inr (.inr rfl))))))

end HealthWatch.Metrics
