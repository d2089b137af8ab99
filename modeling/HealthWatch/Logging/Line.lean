import HealthWatch.Logging.Filter
import HealthWatch.Report.Body
import HealthWatch.Service.State

/-!
# Lines of the log

`Subscriber.line?` is the line of an event that is shown.  In the pretty format
it is a text: the level, the span with its fields, the target, the message and
the fields.  In the JSON format it is an object with the same parts.
-/

namespace HealthWatch

namespace Span

/-- The level of a span. -/
def level (_ : Span) : Level := .info

/-- The part of the service that a span belongs to. -/
def target : Span → String
  | .request => "storefront_health::server::handler"
  | .ticker => "storefront_health::health::ticker"

/-- The fields of a span.  Only requests for the report tell events. -/
def fields : Span → List (String × FieldValue)
  | .request =>
    [("component", .quoted "health_api"), ("method", .plain "GET"), ("path", .plain "/health")]
  | .ticker => [("component", .quoted "health_ticker")]

/-- What a filter knows of a span. -/
def scope (s : Span) : Scope := ⟨s.text, s.level, s.target, s.fields⟩

end Span

/-- The value of a field in a line of text. -/
def FieldValue.text : FieldValue → String
  | .quoted s => Text.quoted s
  | .plain s => s
  | .count n => toString n
  | .real x => fieldLayout.write x

/-- The value of a field in an object. -/
def FieldValue.toJson : FieldValue → Json.Value
  | .quoted s => .ofText s
  | .plain s => .ofText s
  | .count n => .ofNat n
  | .real x => latencyJson x

/-- A line of the log. -/
inductive Line where
  | text (s : String)
  | object (v : Json.Value)

/-- The text of a line. -/
def Line.write : Line → String
  | .text s => s
  | .object v => v.write

namespace Line

/-- The name of a level, with a blank before the shorter ones. -/
def padded (level : Level) : String :=
  if level.text.length < 5 then " " ++ level.text else level.text

/-- A character of a message: those that steer a terminal stand as their code
points. -/
def messageChar (c : Char) : List Char :=
  if c = '\x1b' ∨ c = '\x07' ∨ c = '\x08' ∨ c = '\x0c' ∨ c = '\x7f' then
    ['\\', 'x', Nat.digitChar (c.toNat / 16), Nat.digitChar (c.toNat % 16)]
  else if 0x80 ≤ c.toNat ∧ c.toNat < 0xa0 then
    ['\\', 'u', '\x7b'] ++ Nat.toDigits 16 c.toNat ++ ['\x7d']
  else [c]

/-- A message in a line of text. -/
def messageText (s : String) : String := String.ofList (s.toList.flatMap messageChar)

/-- Fields in a line of text. -/
def fieldsText (fields : List (String × FieldValue)) : String :=
  " ".intercalate (fields.map fun f => f.1 ++ "=" ++ f.2.text)

/-- A span in a line of text. -/
def spanText (span : Span) : String :=
  span.text ++ "\x7b" ++ fieldsText span.fields ++ "\x7d: "

/-- The line of text of an event, told from a span that is shown; `stamp` writes
its instant. -/
def pretty (stamp : Instant → String) (span : Option Span) (time : Instant) (e : Event) :
    String :=
  let fields := if e.fields.isEmpty then "" else " " ++ fieldsText e.fields
  stamp time ++ " " ++ padded e.level ++ " " ++ (span.map spanText).getD "" ++ e.target ++ ": "
    ++ messageText e.message ++ fields

/-- Fields in an object. -/
def fieldsJson (fields : List (String × FieldValue)) : List (String × Json.Value) :=
  fields.map fun f => (f.1, f.2.toJson)

/-- A span in an object. -/
def spanJson (span : Span) : Json.Value :=
  .ofFields (fieldsJson span.fields ++ [("name", .ofText span.text)])

/-- The object of an event, told from a span that is shown. -/
def toJson (stamp : Instant → String) (span : Option Span) (time : Instant) (e : Event) :
    Json.Value :=
  let spans := match span with
    | some span => [("span", spanJson span), ("spans", .list [spanJson span])]
    | none => []
  .ofFields
    ([("timestamp", .ofText (stamp time)),
      ("level", .ofText e.level.text),
      ("fields", .ofFields (("message", .ofText e.message) :: fieldsJson e.fields)),
      ("target", .ofText e.target)] ++ spans)

end Line

/-- The line of an event, if it is shown.  A span that the filter does not show
is left out of the lines of its events. -/
def Subscriber.line? (s : Subscriber) (stamp : Instant → String) (e : LogEntry) : Option Line :=
  if s.filter.allows (e.span.map Span.scope) e.event.heading then
    let span := e.span.filter fun span => s.filter.allowsScope span.scope
    match s.format with
    | .pretty => some (.text (Line.pretty stamp span e.time e.event))
    | .json => some (.object (Line.toJson stamp span e.time e.event))
  else none

end HealthWatch
