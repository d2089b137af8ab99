import HealthWatch.Decimal.Reading
import HealthWatch.Json.Reader
import HealthWatch.Report.Body

/-!
# Reading the body of a health answer

`Digest` is what the body of a health answer tells, and `Digest.ofBody?` reads it off a text.
A field that is left out differs from one that is there: an absent latency is `none`, one
that is no finite number is `some none`, and any other one is its digits.
-/

namespace HealthWatch

/-- What a body tells of one dependency. -/
structure Digest.Entry where
  healthy : Bool
  uptime : Option String
  /-- The digits of the latency, within another option for one that is no finite number. -/
  latency : Option (Option String)
  checkedAt : String
  error : Option String
deriving DecidableEq

/-- What a body tells. -/
structure Digest where
  status : Status
  description : String
  timestamp : String
  uptime : String
  uptimeSeconds : Nat
  /-- The entries in the order of the body. -/
  dependencies : List (String × Digest.Entry)
deriving DecidableEq

/-! ## Reading values -/

namespace Json.Value

/-- Reads a string. -/
def text? : Value → Option String
  | .text s => s
  | _ => none

/-- Reads a number of digits. -/
def count? : Value → Option Nat
  | .number literal => natOfDigits? literal
  | _ => none

/-- Reads the digits of a number that may be `null`. -/
def digits? : Value → Option (Option String)
  | .null => some none
  | .number literal => some (some literal)
  | _ => none

/-- Reads the fields of an object. -/
def fields? : Value → Option (List (String × Value))
  | .object fields => fields.mapM fun f => f.1.map fun name => (name, f.2)
  | _ => none

end Json.Value

/-- Reads a field that must be there. -/
def requiredField? {α : Type} (fields : List (String × Json.Value)) (name : String)
    (read : Json.Value → Option α) : Option α :=
  (fields.lookup name).bind read

/-- Reads a field that may be left out. -/
def optionalField? {α : Type} (fields : List (String × Json.Value)) (name : String)
    (read : Json.Value → Option α) : Option (Option α) :=
  match fields.lookup name with
  | some v => (read v).map some
  | none => some none

/-- Reads whether a dependency answered. -/
def healthyOf? : String → Option Bool
  | "healthy" => some true
  | "unhealthy" => some false
  | _ => none

/-- The status of a word. -/
def Status.ofText? : String → Option Status
  | "ok" => some .ok
  | "degraded" => some .degraded
  | _ => none

/-- Reads the entry of a dependency. -/
def Digest.Entry.ofValue? (v : Json.Value) : Option Digest.Entry := do
  let fields ← v.fields?
  let healthy ← requiredField? fields "status" fun v => v.text?.bind healthyOf?
  let uptime ← optionalField? fields "uptime" Json.Value.text?
  let latency ← optionalField? fields "latency_ms" Json.Value.digits?
  let checkedAt ← requiredField? fields "checked_at" Json.Value.text?
  let error ← optionalField? fields "error" Json.Value.text?
  some ⟨healthy, uptime, latency, checkedAt, error⟩

/-- Reads the entries of the dependencies. -/
def Digest.entriesOf? (v : Json.Value) : Option (List (String × Digest.Entry)) := do
  (← v.fields?).mapM fun f => (Digest.Entry.ofValue? f.2).map fun e => (f.1, e)

/-- Reads a body that has been read as a value. -/
def Digest.ofValue? (v : Json.Value) : Option Digest := do
  let fields ← v.fields?
  let status ← requiredField? fields "status" fun v => v.text?.bind Status.ofText?
  let description ← requiredField? fields "description" Json.Value.text?
  let timestamp ← requiredField? fields "timestamp" Json.Value.text?
  let uptime ← requiredField? fields "uptime" Json.Value.text?
  let uptimeSeconds ← requiredField? fields "uptime_seconds" Json.Value.count?
  let dependencies ← requiredField? fields "dependencies" Digest.entriesOf?
  some ⟨status, description, timestamp, uptime, uptimeSeconds, dependencies⟩

/-- What the body of a health answer tells. -/
def Digest.ofBody? (body : String) : Option Digest := (Json.read body).bind Digest.ofValue?

/-! ## What a report tells -/

/-- The digits of a latency, if it is a finite number. -/
def latencyDigits? (latency : Float) : Option String :=
  match Binary.ofFloat latency with
  | .finite .. => some (latencyLayout.write latency)
  | _ => none

/-- What a body is to tell of a result. -/
def ProbeResult.digest (stamp : Instant → String) (r : ProbeResult) : Digest.Entry :=
  ⟨r.finding.isHealthy, r.finding.uptime?, r.finding.latency?.map latencyDigits?,
    stamp r.checkedAt, r.finding.error?⟩

/-- What a body is to tell of a report. -/
def Report.digest (stamp : Instant → String) (r : Report) : Digest :=
  ⟨r.status, r.description, stamp r.timestamp, r.uptime.uptime, r.uptime.secs,
    r.dependencies.entries.map fun e => (e.1, e.2.digest stamp)⟩

end HealthWatch
