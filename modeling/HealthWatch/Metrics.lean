import HealthWatch.Metrics.Series
import HealthWatch.Report

/-!
# Metrics

`Metrics` is what the service has counted so far: probes by dependency and
outcome, the time they took, the last state and latency of each dependency,
reports by status, the sizes of the last report, and completed cycles.

All that is kept by name, outcome or status is kept in series, and these are
found by a hash of their labels (`SeriesMap`).
-/

namespace HealthWatch

/-- A count of values by size.  `buckets` counts, for each of
`Histogram.bounds`, the values up to that bound. -/
structure Histogram where
  buckets : List Nat
  sum : Float
  count : Nat

namespace Histogram

/-- The upper bounds of the buckets, in seconds. -/
def bounds : List Float := [0.005, 0.01, 0.025, 0.05, 0.1, 0.25, 0.5, 1, 2.5, 5, 10]

/-- The histogram of no values. -/
def empty : Histogram := ⟨bounds.map fun _ => 0, 0, 0⟩

/-- Counts a value. -/
def observe (h : Histogram) (value : Float) : Histogram where
  buckets := List.zipWith (fun bound n => if value ≤ bound then n + 1 else n) bounds h.buckets
  sum := h.sum + value
  count := h.count + 1

end Histogram

/-- What the service has counted so far. -/
structure Metrics where
  /-- Probes by dependency and outcome. -/
  probes : SeriesMap (String × String) Nat
  /-- How long the probes of a dependency took, in seconds. -/
  durations : SeriesMap String Histogram
  /-- Whether the last probe of a dependency was healthy. -/
  up : SeriesMap String Bool
  /-- The latency of the last probe of a dependency that had one. -/
  latencies : SeriesMap String Float
  /-- Reports by status. -/
  reports : SeriesMap String Nat
  /-- Healthy dependencies in the last report. -/
  healthy : Nat
  /-- Dependencies in the last report. -/
  total : Nat
  cycles : Nat

namespace Metrics

/-- Nothing counted. -/
def empty : Metrics := ⟨.empty, .empty, .empty, .empty, .empty, 0, 0, 0⟩

/-- Counts a finished probe. -/
def recordProbe (m : Metrics) (name : String) (finding : Finding) (elapsed : Duration) :
    Metrics :=
  { m with
    probes := m.probes.update (name, finding.statusText) 0 (· + 1)
    durations := m.durations.update name .empty (·.observe elapsed.toSeconds)
    up := m.up.update name false fun _ => finding.isHealthy
    latencies :=
      match finding.latency? with
      | some latency => m.latencies.update name 0 fun _ => latency
      | none => m.latencies }

/-- Counts a report. -/
def recordReport (m : Metrics) (r : Report) : Metrics :=
  { m with
    reports := m.reports.update r.status.text 0 (· + 1)
    healthy := r.healthyCount
    total := r.total }

/-- Counts a completed cycle. -/
def recordCycle (m : Metrics) : Metrics := { m with cycles := m.cycles + 1 }

end Metrics

end HealthWatch
