import PageSync.Log.Recorder

/-!
A process from its beginning: calls for a filter, one after the other, and then steps. Each line is
written with a line feed behind it.
-/

namespace PageSync.Log

def textOfLines (lines : List Line) : String :=
  String.join (lines.map fun line => line.text ++ "\n")

/-- What a process answers to its calls for a filter and to its steps, and what it writes. A call
that breaks off has no answer. -/
structure Transcript where
  installed : List (Option Bool)
  took : List Bool
  text : String
deriving Repr, DecidableEq

namespace Recorder

variable [PatternEngine]

def installAll (recorder : Recorder) : List (String × String) → Recorder × List (Option Outcome)
  | [] => (recorder, [])
  | (app, directive) :: rest =>
    match recorder.install? app directive with
    | some (next, outcome) =>
      let (last, outcomes) := next.installAll rest
      (last, some outcome :: outcomes)
    | none =>
      let (last, outcomes) := recorder.installAll rest
      (last, none :: outcomes)

/-- A new process, which calls for filters and then takes steps. -/
def transcript (calls : List (String × String)) (steps : List Step) : Transcript :=
  let (recorder, installs) := ({} : Recorder).installAll calls
  let outcomes := (recorder.run steps).2
  { installed := installs.map fun outcome => outcome.map Outcome.took
    took := outcomes.map Outcome.took
    text := textOfLines ((installs.filterMap id ++ outcomes).flatMap Outcome.lines) }

end Recorder

end PageSync.Log
