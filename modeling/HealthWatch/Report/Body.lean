import HealthWatch.Decimal.Layout
import HealthWatch.Json.Value
import HealthWatch.Report

/-!
# The body of a health answer

`Report.toJson` is a report as a JSON value, and `Report.body` its compact
text.  What a result does not have is left out, so an absent text differs from
an empty one; a latency that is no finite number is `null`, so it differs from
an absent one.
-/

namespace HealthWatch

/-- Latencies are written without an exponent from 1e-5 up to 1e16, always with
a decimal there; a positive exponent is signed. -/
def latencyLayout : NumberLayout where
  tie := .toEven
  positional leading := decide (-5 ≤ leading) && decide (leading < 16)
  wholeMark := ".0"
  plusSign := "+"
  notANumber := "null"
  infinity := "null"
  negativeInfinity := "null"

/-- A latency in a body. -/
def latencyJson (latency : Float) : Json.Value :=
  match Binary.ofFloat latency with
  | .finite .. => .number (latencyLayout.write latency)
  | _ => .null

/-- A field that is left out if it has no value. -/
def optionalField {α : Type} (name : String) (value : Option α) (toJson : α → Json.Value) :
    List (String × Json.Value) :=
  match value with
  | some v => [(name, toJson v)]
  | none => []

/-- The result of a probe in a body. -/
def ProbeResult.toJson (stamp : Instant → String) (r : ProbeResult) : Json.Value :=
  .ofFields <|
    [("status", .ofText r.finding.statusText)]
    ++ optionalField "uptime" r.finding.uptime? .ofText
    ++ optionalField "latency_ms" r.finding.latency? latencyJson
    ++ [("checked_at", .ofText (stamp r.checkedAt))]
    ++ optionalField "error" r.finding.error? .ofText

/-- A report as a JSON value; `stamp` writes its instants. -/
def Report.toJson (stamp : Instant → String) (r : Report) : Json.Value :=
  .ofFields
    [("status", .ofText r.status.text),
     ("description", .ofText r.description),
     ("timestamp", .ofText (stamp r.timestamp)),
     ("uptime", .ofText r.uptime.uptime),
     ("uptime_seconds", .ofNat r.uptime.secs),
     ("dependencies",
       .ofFields (r.dependencies.entries.map fun e => (e.1, e.2.toJson stamp)))]

/-- The body of a health answer. -/
def Report.body (stamp : Instant → String) (r : Report) : String :=
  (r.toJson stamp).write

end HealthWatch
