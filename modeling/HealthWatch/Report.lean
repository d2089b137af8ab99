import HealthWatch.Duration
import HealthWatch.NameMap

/-!
# Health reports

A `ProbeResult` is what one probe of one dependency found, and a `Report` puts
the results of all dependencies together.  Status, description and healthy
count of a report are read off its results, so they always agree with them.

The clock of a run counts whole milliseconds from the run's start, and an
`Instant` is a reading of it.  Nobody rests longer than `longestRest`.
-/

namespace HealthWatch

/-- A reading of the clock: milliseconds since the run began. -/
abbrev Instant := Nat

/-- The longest rest in milliseconds: thirty years. -/
def longestRest : Nat := 30 * 365 * 86400 * 1000

/-- How long one rests who is to rest for so many milliseconds. -/
def restTime (millis : Nat) : Nat := min millis longestRest

theorem restTime_of_le {millis : Nat} (h : millis ≤ longestRest) : restTime millis = millis :=
  Nat.min_eq_left h

theorem restTime_le (millis : Nat) : restTime millis ≤ millis := Nat.min_le_left _ _

/-- What a probe found.  There is an error exactly if the dependency failed, and an
uptime only if it answered: a result is never put together in any other way, so a
failure without a text of its own does not occur. -/
inductive Finding where
  /-- The dependency answered.  Only one with diagnostics tells its uptime and
  its latency in milliseconds. -/
  | healthy (uptime : Option String) (latency : Option Float)
  /-- The dependency failed; the latency is how long its diagnostics took. -/
  | unhealthy (error : String) (latency : Option Float)

namespace Finding

/-- Whether the dependency answered. -/
def isHealthy : Finding → Bool
  | .healthy .. => true
  | .unhealthy .. => false

/-- The word for what was found. -/
def statusText : Finding → String
  | .healthy .. => "healthy"
  | .unhealthy .. => "unhealthy"

/-- The uptime that the dependency told. -/
def uptime? : Finding → Option String
  | .healthy uptime _ => uptime
  | .unhealthy .. => none

/-- The latency in milliseconds. -/
def latency? : Finding → Option Float
  | .healthy _ latency => latency
  | .unhealthy _ latency => latency

/-- The text of the error. -/
def error? : Finding → Option String
  | .healthy .. => none
  | .unhealthy error _ => some error

end Finding

/-- What a probe found, and when it ended. -/
structure ProbeResult where
  finding : Finding
  checkedAt : Instant

/-- Whether every dependency answered. -/
inductive Status where
  | ok
  | degraded
deriving DecidableEq

namespace Status

/-- The word for a status. -/
def text : Status → String
  | .ok => "ok"
  | .degraded => "degraded"

/-- A sentence for a status. -/
def description : Status → String
  | .ok => "System is running and healthy"
  | .degraded => "System is running with one or more unhealthy dependencies"

end Status

/-- The results of all dependencies at one time. -/
structure Report where
  dependencies : NameMap ProbeResult
  /-- How long the service has been up. -/
  uptime : Duration
  timestamp : Instant

namespace Report

/-- A report is degraded as soon as one dependency failed. -/
def status (r : Report) : Status :=
  if r.dependencies.values.all (·.finding.isHealthy) then .ok else .degraded

/-- The sentence for the status of a report. -/
def description (r : Report) : String := r.status.description

/-- How many dependencies answered. -/
def healthyCount (r : Report) : Nat :=
  (r.dependencies.values.filter (·.finding.isHealthy)).length

/-- How many dependencies failed. -/
def unhealthyCount (r : Report) : Nat := r.dependencies.size - r.healthyCount

/-- How many dependencies there are. -/
def total (r : Report) : Nat := r.dependencies.size

/-- The result of one dependency. -/
def dependency? (r : Report) (name : String) : Option ProbeResult :=
  r.dependencies.get? name

end Report

end HealthWatch
