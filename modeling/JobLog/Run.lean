import JobLog.Builder
import JobLog.RunError
import JobLog.Source.Lines
import JobLog.Suggestion.Summarizer
import JobLog.Text.Utf8

/-!
# Runs

A run feeds the lines of a log to a row of builders. A builder that reports an error is left out
from then on and becomes a failure; the other builders go on.

* `cutLine` cuts long lines.
* `Run.line` and `Run.finish` are the steps of a run.
* `Run.overSource` runs over the lines of a source; the run ends when it is cancelled before a
  line is asked for.
* `ParsedLog.suggest` adds the bug suggestions.
-/

namespace JobLog

/-- The marks of performance data. -/
def performanceMarks : List String := ["TALOSDATA", "TalosResult", "PERFHERDER_DATA"]

/-- The line carries performance data. -/
def carriesPerformance (line : List Char) : Bool :=
  performanceMarks.any fun m => occursIn m.toList line

/-- The line, or its start up to the last position that is not behind byte `max` where the line
carries no performance data. -/
def cutLine (max : Nat) (line : String) : String :=
  let cs := line.toList
  if Text.Utf8.byteLength cs ≤ max || carriesPerformance cs then line
  else (line.sliceTo ((Text.Utf8.lastPos? line max).get (Text.Utf8.isSome_lastPos? line max))).copy

/-- A builder in a run. -/
structure Slot where
  builder : Builder
  /-- The first error that the builder reported. -/
  failure? : Option String

namespace Slot

/-- The slot behind a line. -/
def line (text : String) (number : Nat) (s : Slot) : Slot :=
  if s.failure?.isSome || s.builder.isComplete then s
  else ⟨(s.builder.line text number).1, (s.builder.line text number).2⟩

/-- The slot at the end of the log. -/
def finish (lastLine : Nat) (s : Slot) : Slot :=
  if s.failure?.isSome then s else { s with builder := s.builder.finish lastLine }

/-- The failure of the slot, if it has one. -/
def failure (s : Slot) : Option BuilderFailure := s.failure?.map fun r => ⟨s.builder.name, r⟩

/-- The artifact of the slot with its name, if it did not fail. -/
def artifact (logUrl : String) (s : Slot) : Option (String × Artifact) :=
  if s.failure?.isSome then none else some (s.builder.name, s.builder.artifact logUrl)

end Slot

/-- What a run makes from a log. -/
structure ParsedLog where
  logUrl : String
  artifacts : Artifacts
  failures : List BuilderFailure
  lineCount : Nat

/-- A run over a log. -/
structure Run where
  logUrl : String
  slots : List Slot
  /-- The length that lines are cut to. -/
  maxLineLength : Nat

namespace Run

/-- A run with the given builders. -/
def start (logUrl : String) (builders : List Builder) (maxLineLength : Nat) : Run :=
  ⟨logUrl, builders.map (⟨·, none⟩), maxLineLength⟩

/-- A run with new builders of the given kinds. -/
def ofKinds (logUrl : String) (kinds : List BuilderKind) (settings : Settings) : Run :=
  start logUrl (kinds.map (Builder.start settings)) settings.maxLineLength

/-- The run behind a line. -/
def line (r : Run) (text : String) (number : Nat) : Run :=
  let text := cutLine r.maxLineLength text
  { r with slots := r.slots.map (·.line text number) }

/-- The run behind several lines. -/
def lines (r : Run) (ls : List (String × Nat)) : Run := ls.foldl (fun r x => r.line x.1 x.2) r

/-- The result of a run at the end of the log. -/
def finish (r : Run) (lastLine : Nat) : Except RunError ParsedLog :=
  let slots := r.slots.map (·.finish lastLine)
  let artifacts := (slots.filterMap (·.artifact r.logUrl)).foldl
    (fun as a => Artifacts.insert a.1 a.2 as) []
  let failures := slots.filterMap (·.failure)
  if artifacts.isEmpty && !failures.isEmpty then .error (.allBuildersFailed failures)
  else .ok ⟨r.logUrl, artifacts, failures, lastLine⟩

/-- The result of a run over deliveries, `count` lines having gone before. -/
def overDeliveries (r : Run) (count : Nat) (cancelled : Bool) :
    List Delivery → Except RunError ParsedLog
  | [] => if cancelled then .error .cancelled else r.finish count
  | d :: ds =>
    if cancelled then .error .cancelled
    else
      match d.item with
      | .failed e => .error (.ofRead e)
      | .line bytes number =>
        let text := String.ofList (Text.Utf8.decode bytes)
        (r.line text number).overDeliveries number d.cancelled ds

/-- The result of a run over a source. -/
def overSource (r : Run) (cancelled : Bool) (s : Source) : Except RunError ParsedLog :=
  r.overDeliveries 0 cancelled (s.deliveries cancelled)

end Run

namespace ParsedLog

/-- The summary of the steps. -/
def steps? (p : ParsedLog) : Option StepSummary :=
  (p.artifacts.lookup Artifacts.stepsName).bind Artifact.steps?

/-- Adds the suggestions for the errors in the summary of the steps, if there is one. -/
def suggest {σ : Type} (cache : BugCache σ) (count : Nat) (m : Summarizer σ) (p : ParsedLog) :
    ParsedLog × Summarizer σ :=
  match p.steps? with
  | none => (p, m)
  | some summary =>
    let (suggestions, m) := m.summarize cache count summary.data.errors
    ({ p with
        artifacts := Artifacts.insert Artifacts.suggestionsName (.suggestions suggestions)
          p.artifacts }, m)

/-- The JSON of what a run makes. -/
def toJson (p : ParsedLog) : Json :=
  .obj [
    ("artifacts", p.artifacts.toJson),
    ("failures", .arr (p.failures.map BuilderFailure.toJson)),
    ("line_count", .ofNat p.lineCount),
    ("logurl", .str p.logUrl)]

end ParsedLog
end JobLog
