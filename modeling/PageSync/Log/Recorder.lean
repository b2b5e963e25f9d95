import PageSync.Log.Filter

/-!
The recorder of log events: one filter for the whole run, and the spans that are entered, the
innermost first. Spans that the filter refuses stay on the stack without effect.

A further call for a filter is refused, but only after its filter has been built and made known to
the process, which from then on looks at whatever either filter asks for.
-/

namespace PageSync.Log

structure Entered where
  name : String
  /-- what it lets through, settled when it was entered -/
  limit : Limit
deriving Repr, DecidableEq

/-- Without a filter nothing is recorded. -/
structure Recorder where
  filter : Option Filter := none
  /-- the limit of the filter of the last call that was refused -/
  raised : Limit := .off
  spans : List (Option Entered) := []

inductive Parent where
  | current
  | root
  /-- an entry of the stack, counted from the outermost -/
  | entry (i : Nat)
deriving Repr, DecidableEq

inductive Step where
  | enter (span : Span)
  | exit
  /-- gives fields of the innermost span further values; its limit is settled already -/
  | record (fields : List Field)
  | event (event : Event) (parent : Parent)

namespace Recorder

def scope (recorder : Recorder) : List Limit := recorder.spans.filterMap (·.map Entered.limit)

/-- No record beyond this level is looked at. -/
def ceiling (recorder : Recorder) (filter : Filter) : Limit := filter.limit.max recorder.raised

def allowsEvent (recorder : Recorder) (event : Event) : Bool :=
  recorder.filter.any fun filter =>
    (recorder.ceiling filter).allows event.level && filter.allowsEvent recorder.scope event

def allowsSpan (recorder : Recorder) (filter : Filter) (span : Span) : Bool :=
  (recorder.ceiling filter).allows span.level && filter.allowsSpan recorder.scope span

section

variable [PatternEngine]

def entered (recorder : Recorder) (span : Span) : Option Entered :=
  recorder.filter.bind fun filter =>
    if recorder.allowsSpan filter span then some ⟨span.name, filter.contribution span⟩ else none

def enter (recorder : Recorder) (span : Span) : Recorder :=
  { recorder with spans := recorder.entered span :: recorder.spans }

end

def leave (recorder : Recorder) : Recorder := { recorder with spans := recorder.spans.tail }

def parentName (recorder : Recorder) : Parent → Option String
  | .current => (recorder.spans.findSome? id).map Entered.name
  | .root => none
  | .entry i => (recorder.spans.reverse[i]?.join).map Entered.name

/-- The lines that an event gives rise to: one if it is let through. -/
def lines (recorder : Recorder) (event : Event) (parent : Parent) : List Line :=
  if recorder.allowsEvent event then [event.line (recorder.parentName parent)] else []

structure Outcome where
  took : Bool
  lines : List Line

variable [PatternEngine]

def step (recorder : Recorder) : Step → Recorder × Outcome
  | .enter span => (recorder.enter span, ⟨(recorder.entered span).isSome, []⟩)
  | .exit => (recorder.leave, ⟨!recorder.spans.isEmpty, []⟩)
  | .record _ => (recorder, ⟨true, []⟩)
  | .event event parent =>
    (recorder, ⟨recorder.allowsEvent event, recorder.lines event parent⟩)

def run (recorder : Recorder) : List Step → Recorder × List Outcome
  | [] => (recorder, [])
  | step :: rest =>
    let (next, outcome) := recorder.step step
    let (last, outcomes) := next.run rest
    (last, outcome :: outcomes)

/-- The event that tells of the installation of a filter. -/
def installation (app directive : String) : Event where
  level := .debug
  target := "console_logger"
  fields :=
    [⟨"message", .display ("console logger initialized for " ++ app)⟩,
      ⟨"filter", .text directive⟩]

/-- A call for a filter, which breaks off where the filter is not built. Only the first filter is
installed, and tells of it through itself. -/
def install? (recorder : Recorder) (app directive : String) : Option (Recorder × Outcome) :=
  (Filter.ofText? directive).map fun filter =>
    match recorder.filter with
    | some _ => ({ recorder with raised := filter.limit }, ⟨false, []⟩)
    | none =>
      let installed := { recorder with filter := some filter }
      (installed, ⟨true, installed.lines (installation app directive) .current⟩)

end Recorder

end PageSync.Log
