import HealthWatch.Proofs.FamiliesRead
import HealthWatch.Proofs.SampleValues

/-!
# The exposition is read as its families

The exposition of metrics is read, and what is read are the families that were written
(`read?_exposition`), whatever was recorded and under whatever names.  Only the texts of labels
and the values depend on what was recorded; which metrics there are, and how their samples and
labels are named, is fixed (`shapes`).
-/

namespace HealthWatch.Metrics

open HealthWatch.Exposition

/-! ## Names -/

/-- How the samples of a metric are named, and their labels. -/
structure Shape where
  metric : String
  kind : String
  sample : String
  labels : List String
deriving DecidableEq

/-- How all samples are named. -/
def shapes : List Shape :=
  [⟨"health_dependency_latency_ms", "gauge", "health_dependency_latency_ms", ["dependency"]⟩,
    ⟨"health_dependency_up", "gauge", "health_dependency_up", ["dependency"]⟩,
    ⟨"health_healthy_dependencies", "gauge", "health_healthy_dependencies", []⟩,
    ⟨"health_probe_duration_seconds", "histogram", "health_probe_duration_seconds_bucket",
      ["dependency", "le"]⟩,
    ⟨"health_probe_duration_seconds", "histogram", "health_probe_duration_seconds_sum",
      ["dependency"]⟩,
    ⟨"health_probe_duration_seconds", "histogram", "health_probe_duration_seconds_count",
      ["dependency"]⟩,
    ⟨"health_probes_total", "counter", "health_probes_total", ["dependency", "status"]⟩,
    ⟨"health_reports_total", "counter", "health_reports_total", ["status"]⟩,
    ⟨"health_ticker_cycles_total", "counter", "health_ticker_cycles_total", []⟩,
    ⟨"health_total_dependencies", "gauge", "health_total_dependencies", []⟩]

/-- The shape of a sample of a family. -/
def shapeOf (f : Family) (s : Sample) : Shape := ⟨f.name, f.kind, s.name, s.labels.map Prod.fst⟩

/-- A sample of a family with one of the shapes, and with a number. -/
structure Shaped (f : Family) (s : Sample) : Prop where
  shape : shapeOf f s ∈ shapes
  value : PlainValue s.value

/-- The names of a shape are names, its labels are distinct, and its samples belong to its
metric. -/
theorem shapes_plain : ∀ x ∈ shapes, isName x.sample.toList = true ∧
    (∀ label ∈ x.labels, isLabelName label.toList = true) ∧ x.labels.Nodup ∧
    Told.owns { name := x.metric, kind := some x.kind } x.sample = true := by
  decide +kernel

theorem Shaped.plain {f : Family} {s : Sample} (h : Shaped f s) :
    PlainSample s ∧ (Told.ofFamily f).owns s.name = true := by
  obtain ⟨hname, hlabels, hdistinct, hown⟩ := shapes_plain _ h.shape
  refine ⟨⟨hname, fun label hlabel => ?_, hdistinct, h.value⟩, hown⟩
  exact hlabels label.1 (List.mem_map.mpr ⟨label, hlabel, rfl⟩)

/-! ## Samples -/

variable {m : Metrics} {s : Sample}

/-- A line of a histogram is that of a bucket, of all values, of the sum or of the count. -/
theorem mem_histogramSamples {name : String} {labels : List (String × String)} {h : Histogram} :
    s ∈ histogramSamples name labels h ↔
      (∃ x ∈ Histogram.bounds.zip h.buckets, s =
        ⟨name ++ "_bucket", labels ++ [("le", sampleLayout.write x.1)], toString x.2⟩) ∨
      s = ⟨name ++ "_bucket", labels ++ [("le", "+Inf")], toString h.count⟩ ∨
      s = ⟨name ++ "_sum", labels, sampleLayout.write h.sum⟩ ∨
      s = ⟨name ++ "_count", labels, toString h.count⟩ := by
  simp only [histogramSamples, ← List.map_uncurry_zip_eq_zipWith, List.mem_append, List.mem_map,
    List.mem_cons, List.not_mem_nil, or_false, Function.uncurry_def, eq_comm]

theorem histogram_shaped {dependency help : String} {h : Histogram} {samples : List Sample}
    (hs : s ∈ histogramSamples "health_probe_duration_seconds" (dependencyLabel dependency) h) :
    Shaped ⟨"health_probe_duration_seconds", help, "histogram", samples⟩ s := by
  rcases mem_histogramSamples.mp hs with ⟨x, -, rfl⟩ | rfl | rfl | rfl
  · exact ⟨by simp [shapes, shapeOf, dependencyLabel], count_plain _⟩
  · exact ⟨by simp [shapes, shapeOf, dependencyLabel], count_plain _⟩
  · exact ⟨by simp [shapes, shapeOf, dependencyLabel], double_plain _⟩
  · exact ⟨by simp [shapes, shapeOf, dependencyLabel], count_plain _⟩

/-- The samples of every family are shaped. -/
theorem samples_shaped {f : Family} (hf : f ∈ m.allFamilies) (hs : s ∈ f.samples) : Shaped f s := by
  simp only [allFamilies, single, List.mem_cons, List.not_mem_nil, or_false] at hf
  rcases hf with rfl | rfl | rfl | rfl | rfl | rfl | rfl | rfl
  · -- latencies
    obtain ⟨e, -, rfl⟩ := List.mem_map.mp hs
    exact ⟨by simp [shapes, shapeOf, dependencyLabel], double_plain _⟩
  · -- states
    obtain ⟨e, -, rfl⟩ := List.mem_map.mp hs
    refine ⟨by simp [shapes, shapeOf, dependencyLabel], ?_⟩
    dsimp only
    split
    · exact count_plain 1
    · exact count_plain 0
  · rw [List.mem_singleton.mp hs]
    exact ⟨by simp [shapes, shapeOf], count_plain _⟩
  · -- durations
    obtain ⟨e, -, he⟩ := List.mem_flatMap.mp hs
    exact histogram_shaped he
  · -- probes
    obtain ⟨c, -, rfl⟩ := List.mem_map.mp hs
    exact ⟨by simp [shapes, shapeOf], count_plain _⟩
  · -- reports
    obtain ⟨e, -, rfl⟩ := List.mem_map.mp hs
    exact ⟨by simp [shapes, shapeOf], count_plain _⟩
  · rw [List.mem_singleton.mp hs]
    exact ⟨by simp [shapes, shapeOf], count_plain _⟩
  · rw [List.mem_singleton.mp hs]
    exact ⟨by simp [shapes, shapeOf], count_plain _⟩

/-! ## Families -/

/-- What is the same of a family whatever was recorded. -/
def heading (f : Family) : String × String × String := (f.name, f.kind, f.help)

theorem allFamilies_heading (m : Metrics) :
    m.allFamilies.map heading = Metrics.empty.allFamilies.map heading := rfl

/-- Every family is plain. -/
theorem families_plain : ∀ f ∈ m.allFamilies, PlainFamily f := by
  have hfixed : ∀ x ∈ Metrics.empty.allFamilies.map heading, isName x.1.toList = true ∧
      x.2.1 ∈ kinds ∧ (x.2.2.toList.all fun c => c != '\\' && c != '\n') = true ∧
      (x.2.2.toList.head?.all fun c => !isBlank c) = true := by
    decide +kernel
  rw [← allFamilies_heading m, List.forall_mem_map] at hfixed
  intro f hf
  obtain ⟨hname, hkind, hhelp, hhead⟩ := hfixed f hf
  refine ⟨hname, fun c hc => ?_, hhead, hkind, fun s hs => (samples_shaped hf hs).plain.1,
    fun s hs => (samples_shaped hf hs).plain.2⟩
  simpa using List.all_eq_true.mp hhelp c hc

/-- The families are listed by name. -/
theorem families_increasing : (m.families.map (·.name)).Pairwise (· < ·) := by
  have hfixed : (Metrics.empty.allFamilies.map heading).Pairwise fun a b => a.1 < b.1 := by
    decide +kernel
  rw [← allFamilies_heading m, List.pairwise_map] at hfixed
  rw [List.pairwise_map]
  exact hfixed.filter _

/-- No metric owns the name of a later one. -/
theorem families_apart :
    m.families.Pairwise fun f g => (Told.ofFamily f).owns g.name = false := by
  have hfixed : (Metrics.empty.allFamilies.map heading).Pairwise fun a b =>
      Told.owns { name := a.1, kind := some a.2.1 } b.1 = false := by
    decide +kernel
  rw [← allFamilies_heading m, List.pairwise_map] at hfixed
  exact hfixed.filter _

/-- **The exposition is read as its families.** -/
theorem read?_exposition (m : Metrics) : read? m.exposition = some m.families := by
  refine read?_write (fun f hf => ?_) families_apart
  exact families_plain f (List.mem_filter.mp hf).1

end HealthWatch.Metrics
