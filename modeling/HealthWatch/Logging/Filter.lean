import HealthWatch.Config
import HealthWatch.Logging.Directive

/-!
# Which events are shown

An event is told by a part of the program, its target, at a level, and perhaps
within a span.  A `Filter` is a collection of directives about them.

A directive about a span decides about all that is told within it: a span that
one matches is always shown, and so are the events within it up to the highest
level of the directives that match.  About anything else, and about the events
above that level, the directives decide that name no span and ask for no value:
of those that match an event the most specific one.  What none of them matches
is not shown.
-/

namespace HealthWatch

/-- What a filter knows of a span that events are told within. -/
structure Scope where
  name : String
  level : Level
  target : String
  fields : List (String × FieldValue)

/-- What a filter knows of an event. -/
structure Heading where
  level : Level
  target : String
  /-- The names of the fields. -/
  fields : List String

/-- The heading of an event, whose message is a field too. -/
def Event.heading (e : Event) : Heading :=
  ⟨e.level, e.target, "message" :: e.fields.map (·.1)⟩

/-- Whether a level is shown of that up to which events are. -/
def Level.within (level : Level) (most : Option Level) : Bool :=
  most.any fun most => decide (level.rank ≤ most.rank)

/-- Of two limits the one that shows more. -/
def Level.wider : Option Level → Option Level → Option Level
  | none, b => b
  | a, none => a
  | some a, some b => if a.rank ≤ b.rank then some b else some a

/-- Whether a value is as asked.  Numbers and truth values are asked only of
fields that are texts. -/
def ValueDemand.accepts (d : ValueDemand) : FieldValue → Bool
  | .quoted s | .plain s => d.pattern.any (·.accepts s)
  | .count _ | .real _ => false

namespace Directive

/-- What a directive is about; of two directives about the same the later one
holds. -/
def subject (d : Directive) : String × Option String × Option (String × Option String) :=
  (d.target, d.span, d.field.map fun f => (f.name, f.value.map (·.text)))

/-- Whether a directive decides about events whatever they are told within. -/
def isGeneral (d : Directive) : Bool :=
  d.span.isNone && d.field.all (·.value.isNone)

/-- Whether a directive decides about what is told within a span. -/
def isAboutSpans (d : Directive) : Bool := d.span.isSome || d.field.isSome

/-- How specific a directive is: first the length of its target counts, then
whether it asks for a field. -/
def specificity (d : Directive) : Nat := 2 * d.target.utf8ByteSize + d.field.toList.length

/-- The name of the field that a directive asks for. -/
def fieldName (d : Directive) : String := (d.field.map (·.name)).getD ""

/-- Whether another directive is more specific.  Of two that ask for fields of
the same target, the one with the later name is. -/
def isBelow (d other : Directive) : Bool :=
  decide (d.specificity < other.specificity)
    || (decide (d.specificity = other.specificity)
      && decide (d.fieldName < other.fieldName))

/-- The most specific of directives. -/
def mostSpecific? : List Directive → Option Directive
  | [] => none
  | d :: ds =>
    match mostSpecific? ds with
    | some other => if d.isBelow other then some other else some d
    | none => some d

/-- Whether a directive that decides generally is about an event. -/
def covers (d : Directive) (e : Heading) : Bool :=
  e.target.startsWith d.target && d.field.all fun f => e.fields.contains f.name

/-- Whether a directive about spans is about a span. -/
def coversScope (d : Directive) (s : Scope) : Bool :=
  s.target.startsWith d.target && d.span.all (· == s.name)
    && d.field.all fun f => s.fields.any (·.1 == f.name)

/-- Whether the fields of a span have the values that a directive asks for. -/
def isMetBy (d : Directive) (s : Scope) : Bool :=
  d.field.all fun f => f.value.all fun v =>
    (s.fields.lookup f.name).any v.accepts

end Directive

/-- Which events are shown: what directives say about different things. -/
structure Filter where
  directives : List Directive

namespace Filter

/-- The filter that shows nothing. -/
def empty : Filter := ⟨[]⟩

/-- Decides about something, whatever was decided about the same before. -/
def add (f : Filter) (d : Directive) : Filter :=
  ⟨f.directives.filter (·.subject != d.subject) ++ [d]⟩

/-- How much is shown of events like one, whatever they are told within. -/
def most (f : Filter) (e : Heading) : Option Level :=
  (Directive.mostSpecific? (f.directives.filter fun d => d.isGeneral && d.covers e)).bind
    (·.most)

/-- How much is shown of what is told within a span, if a directive is about
it. -/
def mostWithin? (f : Filter) (s : Scope) : Option (Option Level) :=
  match f.directives.filter fun d => d.isAboutSpans && d.coversScope s with
  | [] => none
  | ds =>
    some (((ds.filter (·.isMetBy s)).map (·.most)).foldr Level.wider none)

/-- Whether an event that is told within a span is shown. -/
def allows (f : Filter) (span : Option Scope) (e : Heading) : Bool :=
  ((span.bind f.mostWithin?).any e.level.within) || e.level.within (f.most e)

/-- Whether a span is shown.  A directive that asks for a field decides about
all spans of its target. -/
def allowsScope (f : Filter) (s : Scope) : Bool :=
  (f.mostWithin? s).isSome
    || s.level.within
      ((Directive.mostSpecific?
        (f.directives.filter fun d => d.isGeneral && s.target.startsWith d.target)).bind
          (·.most))

/-! ## Reading -/

/-- Reads directives between commas; a later one about the same thing replaces
an earlier one. -/
def ofText (s : String) : Except FilterError Filter := do
  let directives ← ((s.splitOn ",").filter fun part => !part.isEmpty).mapM Directive.ofText
  return directives.foldl add empty

/-- What is shown of what the HTTP library tells. -/
def hyperDirective : Directive := ⟨"hyper", none, none, some .info⟩

/-- The filter that is used: that of the setting if it can be read, else that of
the configuration.  Of what the HTTP library tells, no more is ever shown than
what is of interest. -/
def ofSetting (setting : Option String) (directive : String) : Except FilterError Filter := do
  let filter ← match setting.bind fun s => (ofText s).toOption with
    | some filter => .ok filter
    | none => ofText directive
  return filter.add hyperDirective

end Filter

/-- What shows events: a filter and a way to write what passes it. -/
structure Subscriber where
  filter : Filter
  format : LogFormat

namespace Subscriber

/-- Why no subscriber was installed. -/
inductive InstallError where
  | filter (e : FilterError)
  /-- There is one already. -/
  | installed
deriving DecidableEq

/-- The subscriber of a configuration. -/
def ofConfig (setting : Option String) (c : LoggingConfig) : Except FilterError Subscriber := do
  return ⟨← Filter.ofSetting setting c.directive, c.format⟩

/-- Installs the subscriber of a configuration, unless there is one. -/
def install (current : Option Subscriber) (setting : Option String) (c : LoggingConfig) :
    Except InstallError Subscriber :=
  match ofConfig setting c, current with
  | .error e, _ => .error (.filter e)
  | .ok _, some _ => .error .installed
  | .ok s, none => .ok s

end Subscriber

end HealthWatch
