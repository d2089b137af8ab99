import HealthWatch.Decimal.Layout
import HealthWatch.Metrics

/-!
# The text exposition of metrics

A family is a name, a line of help, a kind and its samples.  The exposition
lists the families by name and the samples of each by their labels.  A family
with labels is left out as long as it has no sample.
-/

namespace HealthWatch

/-- Doubles in an exposition never have an exponent, and no decimals if they
are whole. -/
def sampleLayout : NumberLayout where
  tie := .up
  positional _ := true
  wholeMark := ""
  plusSign := ""
  notANumber := "NaN"
  infinity := "inf"
  negativeInfinity := "-inf"

/-- One line of an exposition: a name, labels and a value as it is written. -/
structure Sample where
  name : String
  labels : List (String × String)
  value : String
deriving DecidableEq

/-- The samples of one metric. -/
structure Family where
  name : String
  help : String
  kind : String
  samples : List Sample
deriving DecidableEq

namespace Sample

/-- A character of a label's value: backslash, quote and line feed are
escaped. -/
def escape (c : Char) : List Char :=
  if c = '\\' then ['\\', '\\']
  else if c = '"' then ['\\', '"']
  else if c = '\n' then ['\\', 'n']
  else [c]

/-- A label with its value in quotes. -/
def writeLabel (label : String × String) : String :=
  label.1 ++ "=\"" ++ String.ofList (label.2.toList.flatMap escape) ++ "\""

/-- The labels of a sample in braces; none are written for no labels. -/
def writeLabels : List (String × String) → String
  | [] => ""
  | labels => "\x7b" ++ ",".intercalate (labels.map writeLabel) ++ "\x7d"

/-- The line of a sample. -/
def write (s : Sample) : String :=
  s.name ++ writeLabels s.labels ++ " " ++ s.value ++ "\n"

end Sample

/-- The lines of a family. -/
def Family.write (f : Family) : String :=
  "# HELP " ++ f.name ++ " " ++ f.help ++ "\n" ++
  "# TYPE " ++ f.name ++ " " ++ f.kind ++ "\n" ++
  String.join (f.samples.map Sample.write)

namespace Metrics

/-- The label of a dependency's name. -/
def dependencyLabel (name : String) : List (String × String) := [("dependency", name)]

/-- The probe counters. -/
def probeSamples (m : Metrics) : List Sample :=
  m.probes.sorted.map fun s =>
    ⟨"health_probes_total", [("dependency", s.labels.1), ("status", s.labels.2)],
      toString s.value⟩

/-- The lines of one histogram: its buckets, the last without a bound, then its
sum and its count. -/
def histogramSamples (name : String) (labels : List (String × String)) (h : Histogram) :
    List Sample :=
  let bucket (bound : String) (count : Nat) : Sample :=
    ⟨name ++ "_bucket", labels ++ [("le", bound)], toString count⟩
  List.zipWith (fun bound n => bucket (sampleLayout.write bound) n) Histogram.bounds h.buckets
    ++ [bucket "+Inf" h.count,
      ⟨name ++ "_sum", labels, sampleLayout.write h.sum⟩,
      ⟨name ++ "_count", labels, toString h.count⟩]

/-- The durations of probes. -/
def durationSamples (m : Metrics) : List Sample :=
  m.durations.sorted.flatMap fun s =>
    histogramSamples "health_probe_duration_seconds" (dependencyLabel s.labels) s.value

/-- The last state of each dependency. -/
def upSamples (m : Metrics) : List Sample :=
  m.up.sorted.map fun s =>
    ⟨"health_dependency_up", dependencyLabel s.labels, if s.value then "1" else "0"⟩

/-- The last latency of each dependency that told one. -/
def latencySamples (m : Metrics) : List Sample :=
  m.latencies.sorted.map fun s =>
    ⟨"health_dependency_latency_ms", dependencyLabel s.labels, sampleLayout.write s.value⟩

/-- The report counters of the statuses that occurred. -/
def reportSamples (m : Metrics) : List Sample :=
  m.reports.sorted.map fun s =>
    ⟨"health_reports_total", [("status", s.labels)], toString s.value⟩

/-- A family of a single sample without labels. -/
def single (name help kind : String) (value : Nat) : Family :=
  ⟨name, help, kind, [⟨name, [], toString value⟩]⟩

/-- All families by name, with or without samples. -/
def allFamilies (m : Metrics) : List Family :=
  [⟨"health_dependency_latency_ms",
      "Latency reported by dependencies exposing diagnostics", "gauge", m.latencySamples⟩,
    ⟨"health_dependency_up",
      "Dependency health status (1=healthy, 0=unhealthy)", "gauge", m.upSamples⟩,
    single "health_healthy_dependencies"
      "Number of healthy dependencies in the last report" "gauge" m.healthy,
    ⟨"health_probe_duration_seconds",
      "Wall time spent probing a dependency, retries included", "histogram",
      m.durationSamples⟩,
    ⟨"health_probes_total", "Total number of dependency probes", "counter", m.probeSamples⟩,
    ⟨"health_reports_total", "Health reports built, by overall status", "counter",
      m.reportSamples⟩,
    single "health_ticker_cycles_total" "Completed periodic health check cycles" "counter"
      m.cycles,
    single "health_total_dependencies"
      "Number of dependencies in the last report" "gauge" m.total]

/-- The families that are exposed. -/
def families (m : Metrics) : List Family :=
  m.allFamilies.filter fun f => !f.samples.isEmpty

/-- The text exposition. -/
def exposition (m : Metrics) : String := String.join (m.families.map Family.write)

end Metrics

end HealthWatch
