import HealthWatch.Proofs.RecordedSeries
import Mathlib.Data.List.Nodup

/-!
# The exposition is faithful

Whatever is recorded, under whatever names, the exposition is read, no two of its samples have the
same name and labels, and its samples are those that the history calls for
(`exposition_faithful`).

Of each dependency counts what is kept under its name and its outcomes.  That is what its own
probes tell unless labels share a hash (`Apart`).  Then the series of one shows also what
belongs to the other, which has none: so for the counters of a dependency `x` that fails and a
dependency `xun` that answers (`series_merged`).
-/

namespace HealthWatch

/-- What tells samples apart: the name and the labels. -/
def Sample.series (s : Sample) : String × List (String × String) := (s.name, s.labels)

namespace Metrics

open Ending Exposition

variable {m : Metrics} {l : List Ending}

/-! ## Each series once -/

theorem dependencyLabel_injective {a b : String} (h : dependencyLabel a = dependencyLabel b) :
    a = b := by
  simpa [dependencyLabel] using h

/-- If the labels of a sample tell those of its series, samples of different series differ. -/
theorem samples_of_series_nodup {κ α : Type} [Labels κ] (f : SeriesMap κ α)
    {sample : Series κ α → Sample}
    (h : ∀ a b, (sample a).labels = (sample b).labels → a.labels = b.labels) :
    ((f.sorted.map sample).map Sample.series).Nodup := by
  rw [List.map_map, List.Nodup, List.pairwise_map]
  exact f.sorted_pairwise.imp fun {a b} hne heq => hne (h a b (congrArg Prod.snd heq))

theorem upSamples_nodup : (m.upSamples.map Sample.series).Nodup :=
  samples_of_series_nodup m.up fun _ _ => dependencyLabel_injective

theorem latencySamples_nodup : (m.latencySamples.map Sample.series).Nodup :=
  samples_of_series_nodup m.latencies fun _ _ => dependencyLabel_injective

theorem probeSamples_nodup : (m.probeSamples.map Sample.series).Nodup :=
  samples_of_series_nodup m.probes fun a b heq => Prod.ext (by simp_all) (by simp_all)

theorem reportSamples_nodup : (m.reportSamples.map Sample.series).Nodup :=
  samples_of_series_nodup m.reports fun a b heq => by simpa using heq

/-- The bounds of the buckets are spelled differently. -/
theorem bounds_nodup : (Histogram.bounds.map sampleLayout.write ++ ["+Inf"]).Nodup := by
  decide +kernel

/-- The lines of one histogram are different series. -/
theorem histogram_nodup (name : String) (labels : List (String × String)) (h : Histogram) :
    ((histogramSamples name labels h).map Sample.series).Nodup := by
  have hseries : (histogramSamples name labels h).map Sample.series =
      (((Histogram.bounds.zip h.buckets).map Prod.fst).map sampleLayout.write ++ ["+Inf"]).map
        (fun bound => (name ++ "_bucket", labels ++ [("le", bound)])) ++
      [(name ++ "_sum", labels), (name ++ "_count", labels)] := by
    simp [histogramSamples, Sample.series, ← List.map_uncurry_zip_eq_zipWith, Function.uncurry_def]
  have htaken : ((Histogram.bounds.zip h.buckets).map Prod.fst).Sublist Histogram.bounds := by
    rw [List.zip_eq_zip_take_min, List.map_fst_zip (by simp)]
    exact List.take_sublist _ _
  have hbounds : (((Histogram.bounds.zip h.buckets).map Prod.fst).map sampleLayout.write ++
      ["+Inf"]).Nodup :=
    ((htaken.map _).append_right _).nodup bounds_nodup
  rw [hseries, List.nodup_append]
  refine ⟨hbounds.map fun a b heq => ?_, ?_, ?_⟩
  · simpa using heq
  · simp
  · rintro x hx y hy rfl
    obtain ⟨bound, -, rfl⟩ := List.mem_map.mp hx
    simp at hy

theorem durationSamples_nodup : (m.durationSamples.map Sample.series).Nodup := by
  have hlabel : ∀ {dependency : String} {h : Histogram} {s : Sample},
      s ∈ histogramSamples "health_probe_duration_seconds" (dependencyLabel dependency) h →
      s.labels.head? = some ("dependency", dependency) := by
    intro dependency h s hs
    rcases mem_histogramSamples.mp hs with ⟨x, -, rfl⟩ | rfl | rfl | rfl
    all_goals rfl
  rw [durationSamples, List.Nodup, List.pairwise_map, List.pairwise_flatMap]
  constructor
  · intro e he
    exact List.pairwise_map.mp (histogram_nodup _ _ _)
  · refine m.durations.sorted_pairwise.imp fun {x y} hne s hs s' hs' heq => ?_
    have hhead : s.labels.head? = s'.labels.head? :=
      congrArg (fun series => series.2.head?) heq
    rw [hlabel hs, hlabel hs'] at hhead
    exact hne (congrArg Prod.snd (Option.some.inj hhead))

/-- **No two samples are of the same series.** -/
theorem samples_nodup (m : Metrics) : (m.samples.map Sample.series).Nodup := by
  rw [samples, List.Nodup, List.pairwise_map, List.pairwise_flatMap]
  constructor
  · intro f hf
    refine List.pairwise_map.mp ?_
    have hall := (List.mem_filter.mp hf).1
    simp only [allFamilies, single, List.mem_cons, List.not_mem_nil, or_false] at hall
    rcases hall with rfl | rfl | rfl | rfl | rfl | rfl | rfl | rfl
    · exact latencySamples_nodup
    · exact upSamples_nodup
    · exact List.nodup_singleton _
    · exact durationSamples_nodup
    · exact probeSamples_nodup
    · exact reportSamples_nodup
    · exact List.nodup_singleton _
    · exact List.nodup_singleton _
  · -- the name of a sample tells its metric
    have hmetric : ∀ x ∈ shapes, ∀ y ∈ shapes, x.sample = y.sample → x.metric = y.metric := by
      decide +kernel
    have hshape : ∀ f ∈ m.families, ∀ s ∈ f.samples, shapeOf f s ∈ shapes :=
      fun f hf s hs => (samples_shaped (List.mem_filter.mp hf).1 hs).shape
    have hnames := List.pairwise_map.mp (families_increasing (m := m))
    refine hnames.imp_of_mem fun {f g} hf hg hlt s hs s' hs' heq => ?_
    have hsame := hmetric _ (hshape f hf s hs) _ (hshape g hg s' hs') (congrArg Prod.fst heq)
    exact NameMap.ne_of_lt hlt hsame

/-! ## The image of a history -/

/-- What is read is the image of a history. -/
structure Image (l : List Ending) (fs : List Family) : Prop where
  /-- Metrics are listed by name, each once. -/
  metrics : (fs.map (·.name)).Pairwise (· < ·)
  /-- Each metric has samples, all with its names. -/
  shaped : ∀ f ∈ fs, f.samples ≠ [] ∧ ∀ s ∈ f.samples, shapeOf f s ∈ shapes
  /-- No two samples have the same name and labels. -/
  series : ((fs.flatMap (·.samples)).map Sample.series).Nodup
  /-- The samples are those that the history calls for, given what is kept of each dependency. -/
  recorded : ∀ s, s ∈ fs.flatMap (·.samples) ↔ Recorded (Account.kept l) l s
  /-- Where hashes are apart, that is what the probes of each dependency tell. -/
  recorded_own : Apart l → ∀ s, s ∈ fs.flatMap (·.samples) ↔ Recorded (Account.own l) l s

/-- **The exposition is faithful.**  Whatever was recorded, in whatever order and under whatever
names, the exposition is read, and what is read is the image of what was recorded. -/
theorem exposition_faithful (l : List Ending) :
    ∃ fs, read? (empty.noteAll l).exposition = some fs ∧ Image l fs := by
  refine ⟨_, read?_exposition _, families_increasing, ?_, samples_nodup _,
    fun s => mem_samples_iff, ?_⟩
  · intro f hf
    obtain ⟨hall, hsamples⟩ := List.mem_filter.mp hf
    exact ⟨by simpa using hsamples, fun s hs => (samples_shaped hall hs).shape⟩
  · intro hapart s
    rw [← funext (Account.kept_eq_own hapart)]
    exact mem_samples_iff

/-- Probes of a dependency without a name, and of one whose name would end its label. -/
def awkward : List Ending :=
  [.probe "" (.healthy none (some 3.5)) ⟨4000000⟩,
    .probe "\"\x7d 1\n# \\" (.unhealthy "dependency is closed" none) ⟨0⟩, .cycle]

theorem apart_awkward : Apart awkward := by
  constructor <;> decide +kernel

theorem awkward_faithful : Apart awkward ∧
    ∃ fs, read? (empty.noteAll awkward).exposition = some fs ∧
      ∀ s, s ∈ fs.flatMap (·.samples) ↔ Recorded (Account.own awkward) awkward s := by
  obtain ⟨fs, hread, himage⟩ := exposition_faithful awkward
  exact ⟨apart_awkward, fs, hread, himage.recorded_own apart_awkward⟩

/-- Two probes whose labels read alike. -/
def alike : List Ending :=
  [.probe "x" (.unhealthy "dependency is closed" none) ⟨0⟩, .probe "xun" (.healthy none none) ⟨0⟩]

/-- A counter of probes is called for by probes with its outcome. -/
theorem Recorded.counted {account : String → Account} {name value : String} {healthy : Bool}
    (h : Recorded account l ⟨"health_probes_total",
      [("dependency", name), ("status", outcomeText healthy)], value⟩) :
    0 < (account name).outcomes healthy := by
  generalize hs : (⟨"health_probes_total",
    [("dependency", name), ("status", outcomeText healthy)], value⟩ : Sample) = s at h
  cases h with
  | probes other outcome hpos =>
      obtain ⟨rfl, houtcome⟩ : name = other ∧ outcomeText healthy = outcomeText outcome := by
        simpa using congrArg Sample.labels hs
      rwa [outcomeText_injective houtcome]
  | _ => exact absurd (congrArg Sample.name hs) (by simp)

/-- What is read after two probes whose labels read alike is not what they call for: they share
a counter. -/
theorem series_merged :
    ¬∃ fs, read? (empty.noteAll alike).exposition = some fs ∧
      ∀ s, s ∈ fs.flatMap (·.samples) ↔ Recorded (Account.own alike) alike s := by
  rintro ⟨fs, hread, hall⟩
  rw [read?_exposition] at hread
  cases hread
  have hcalled := (hall _).mpr (.probes "xun" true (by decide))
  have hkept := (mem_samples_iff.mp hcalled).counted
  revert hkept
  decide +kernel

end Metrics

end HealthWatch
