import HealthWatch.Config
import HealthWatch.Text.Blank

/-!
# What a configuration must satisfy

A configuration that could be read may still be refused.  `Config.violation?`
gives the first rule that it breaks: those on probing come first, in the order
of the fields, then the path of the metrics, then the dependencies in the order
of their names.  A dependency that is not enabled has to satisfy its rules too.
-/

namespace HealthWatch

open HealthWatch.Text

/-- The longest accepted interval between two cycles. -/
def maxIntervalSecs : Nat := 24 * 60 * 60

/-- The longest accepted ceiling of a probe, and the longest delay. -/
def maxWaitSecs : Nat := 60 * 60

/-- A rule that a dependency breaks. -/
inductive DependencyViolation where
  | delayTooLong
  | blankAddress
  | blankConnectionString
  | unsupportedScheme (scheme : String)
deriving DecidableEq

/-- A rule that a configuration breaks. -/
inductive Violation where
  | intervalOutOfRange
  | ceilingOutOfRange
  | noAttempts
  | delayTooLong
  | relativeMetricsPath (path : String)
  | blankName
  | dependency (name : String) (violation : DependencyViolation)
deriving DecidableEq

/-- What a dependency is told to have wrong. -/
def DependencyViolation.message : DependencyViolation → String
  | .delayTooLong => s!"connect_retry_delay_secs must be at most {maxWaitSecs}"
  | .blankAddress => "address must not be empty"
  | .blankConnectionString => "connection string must not be empty"
  | .unsupportedScheme scheme => s!"unsupported url scheme '{scheme}'"

/-- What a configuration is told to have wrong, without the details. -/
def Violation.headline : Violation → String
  | .intervalOutOfRange => s!"health.interval_secs must be between 1 and {maxIntervalSecs}"
  | .ceilingOutOfRange => s!"health.probe_ceiling_secs must be between 1 and {maxWaitSecs}"
  | .noAttempts => "health.retry_attempts must be at least 1"
  | .delayTooLong => s!"health.retry_delay_secs must be at most {maxWaitSecs}"
  | .relativeMetricsPath path => s!"metrics.path must start with '/': {path}"
  | .blankName => "dependency names must not be empty"
  | .dependency name _ => s!"invalid dependency '{name}'"

/-- What a configuration is told to have wrong. -/
def Violation.message : Violation → String
  | v@(.dependency _ violation) => v.headline ++ ": " ++ violation.message
  | v => v.headline

/-- The first rule on probing that is broken. -/
def HealthConfig.violation? (h : HealthConfig) : Option Violation :=
  if h.intervalSecs = 0 ∨ maxIntervalSecs < h.intervalSecs then some .intervalOutOfRange
  else if h.probeCeilingSecs = 0 ∨ maxWaitSecs < h.probeCeilingSecs then
    some .ceilingOutOfRange
  else if h.retryAttempts = 0 then some .noAttempts
  else if maxWaitSecs < h.retryDelaySecs then some .delayTooLong
  else none

/-- The rule on the path of the metrics, which matters if they are shown. -/
def MetricsConfig.violation? (m : MetricsConfig) : Option Violation :=
  if m.enabled ∧ m.path.toList.head? ≠ some '/' then some (.relativeMetricsPath m.path)
  else none

/-- The rule that a kind breaks. -/
def DependencyKind.violation? : DependencyKind → Option DependencyViolation
  | .tcp address | .redis address _ _ =>
    if isBlank address then some .blankAddress else none
  | .postgres url | .mongo url =>
    if isBlank url then some .blankConnectionString else none
  | .http url _ =>
    if url.scheme = "http" ∨ url.scheme = "https" then none
    else some (.unsupportedScheme url.scheme)

/-- The first rule that a dependency breaks. -/
def DependencyConfig.violation? (d : DependencyConfig) : Option DependencyViolation :=
  if maxWaitSecs < d.connectRetryDelaySecs then some .delayTooLong else d.kind.violation?

/-- The first rule that a dependency breaks under its name. -/
def entryViolation? (entry : String × DependencyConfig) : Option Violation :=
  if isBlank entry.1 then some .blankName
  else entry.2.violation?.map (.dependency entry.1)

/-- The first rule that a configuration breaks. -/
def Config.violation? (c : Config) : Option Violation :=
  c.health.violation? <|> c.metrics.violation? <|>
    c.dependencies.entries.findSome? entryViolation?

end HealthWatch
