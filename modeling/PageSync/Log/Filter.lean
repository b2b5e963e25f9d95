import PageSync.Log.Event
import PageSync.Log.Specificity

/-!
Filters: which events and spans are let through. A filter holds static and dynamic directives, the
most specific first. The first static directive about an event decides on it by its level. Besides,
each entered span that dynamic directives are about lets events through up to a level of its own.
-/

namespace PageSync.Log

structure Filter where
  statics : List Directive
  dynamics : List Directive
  /-- the most verbose level that a static directive was given -/
  staticLimit : Limit
  /-- the most verbose level that a dynamic directive was given -/
  dynamicLimit : Limit

/-- Directives on the existence of a field are static as well as dynamic. -/
def Directive.isStatic (directive : Directive) : Bool :=
  directive.span.isNone && !directive.hasValue

namespace Filter

def ofDirectives (directives : List Directive) : Filter :=
  let (dynamics, plain) := directives.partition Directive.isDynamic
  let statics := plain ++ dynamics.filter Directive.isStatic
  { statics := sortBy Directive.specificity statics
    dynamics := sortBy Directive.specificity dynamics
    staticLimit := Limit.maximum (statics.map Directive.limit)
    dynamicLimit := Limit.maximum (dynamics.map Directive.limit) }

def fallback : Filter := ofDirectives [.ofLimit (.upTo .warn)]

section

variable [PatternEngine]

/-- Directives separated by commas. The first that is not read decides on the fault. -/
def read (text : String) : Except Directive.Fault Filter :=
  ((Text.words (· == ',') text.toList).mapM Directive.read).map ofDirectives

/-- The filter that a text stands for: the fallback for a text that is refused, and none when the
reader breaks off. -/
def ofText? (text : String) : Option Filter :=
  match read text with
  | .ok filter => some filter
  | .error .refused => some fallback
  | .error .brokeOff => none

def ofText (text : String) : Filter := (ofText? text).getD fallback

end

def text (filter : Filter) : String :=
  ",".intercalate ((filter.statics ++ filter.dynamics).map Directive.text)

/-- The filter asks for no record beyond this level. One that tests values has to see every span, so
it has no such level short of the last. -/
def limit (filter : Filter) : Limit :=
  if filter.dynamics.any Directive.hasValue then .upTo .trace
  else filter.staticLimit.max filter.dynamicLimit

end Filter

/-- Whether a value is the one expected. Floats are compared up to the distance from one to the next
float; patterns are compared with texts as they are written. -/
def Expected.holds [PatternEngine] : Expected → Value → Bool
  | .bool b, .bool value => b == value
  | .natural n, .unsigned value => n == value
  | .natural n, .signed value => (n : Int) == value
  | .integer n, .signed value => n == value
  | .float x, .float value => (value - x).abs < 2.220446049250313e-16
  | .nan, .float value => value.isNaN
  | .pattern p, .text s => p.matchesText s
  | .pattern p, .display s => p.matchesText s
  | .pattern p, .debug s => p.matchesText (Text.quoted s)
  | .pattern p, .failure s => p.matchesText s
  | .pattern p, .wide n => p.matchesText (integerText n)
  | _, _ => false

namespace Directive

def coversTarget (directive : Directive) (target : String) : Bool :=
  directive.target.all fun start => start.toList.isPrefixOf target.toList

def coversFields (directive : Directive) (fields : List Field) : Bool :=
  directive.field.all fun test => fields.any fun field => field.name == test.name

def coversEvent (directive : Directive) (event : Event) : Bool :=
  directive.coversTarget event.target && directive.coversFields event.fields

def coversSpan (directive : Directive) (span : Span) : Bool :=
  directive.coversTarget span.target && directive.span.all (· == span.name) &&
    directive.coversFields span.fields

/-- The value asked for, if any, is the value of the first field with that name. -/
def holdsFor [PatternEngine] (directive : Directive) (span : Span) : Bool :=
  directive.field.all fun test => test.value.all fun expected =>
    (span.fields.find? fun field => field.name == test.name).any fun field =>
      expected.holds field.value

end Directive

namespace Filter

def about (filter : Filter) (span : Span) : List Directive :=
  filter.dynamics.filter fun directive => directive.coversSpan span

def contribution [PatternEngine] (filter : Filter) (span : Span) : Limit :=
  Limit.maximum (((filter.about span).filter (·.holdsFor span)).map Directive.limit)

/-- The first static directive about an event lets it through. -/
def allowsByTarget (filter : Filter) (event : Event) : Bool :=
  filter.staticLimit.allows event.level &&
    (filter.statics.find? (·.coversEvent event)).any (·.limit.allows event.level)

/-- For spans, fields do not matter to static directives. -/
def allowsSpanByTarget (filter : Filter) (span : Span) : Bool :=
  filter.staticLimit.allows span.level &&
    (filter.statics.find? (·.coversTarget span.target)).any (·.limit.allows span.level)

def allowsByScope (filter : Filter) (scope : List Limit) (level : Level) : Bool :=
  filter.dynamicLimit.allows level && scope.any (·.allows level)

def allowsEvent (filter : Filter) (scope : List Limit) (event : Event) : Bool :=
  filter.allowsByTarget event || filter.allowsByScope scope event.level

def allowsSpan (filter : Filter) (scope : List Limit) (span : Span) : Bool :=
  !(filter.about span).isEmpty || filter.allowsSpanByTarget span ||
    filter.allowsByScope scope span.level

end Filter

end PageSync.Log
