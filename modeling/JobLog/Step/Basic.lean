import JobLog.Json.Record
import JobLog.Json.Written
import JobLog.Text.Blank
import JobLog.Timestamp

/-!
# Steps

A job runs in steps. A step stands between two lines of the log and holds the errors reported
between them.

* `Step.begin` is a step that was just opened, `Step.addError` and `Step.finish` go on with it.
* `StepSummary` is the artifact that the steps make.
-/

namespace JobLog

open Json (Shape)

/-- An error that a line of the log reports. -/
structure ErrorLine where
  number : Nat
  text : String
  deriving DecidableEq, Repr

namespace ErrorLine

/-- The error of a line; white space at its end is left out. -/
def ofLine (number : Nat) (text : String) : ErrorLine :=
  ⟨number, String.ofList (Text.trimEnd text.toList)⟩

/-- The JSON of an error. -/
def toJson (e : ErrorLine) : Json :=
  .obj [("line", .str e.text), ("line_number", .ofNat e.number)]

/-- The fields of an error. -/
def shape : Shape := .record [("line_number", .whole), ("line", .whole)]

/-- Reads an error. -/
def ofJson? (v : Json) : Option ErrorLine := do
  let r ← v.record? ["line_number", "line"]
  let number ← r.required? "line_number" Json.natural?
  let text ← r.required? "line" Json.text?
  some ⟨number, text⟩

end ErrorLine

/-- How a step ended. -/
inductive StepResult
  | success | testfailed | busted | skipped | exception | retry | usercancel | unknown | superseded
  deriving DecidableEq, Repr

namespace StepResult

/-- The result that a code stands for. -/
def ofCode : Nat → StepResult
  | 0 => .success
  | 1 => .testfailed
  | 2 => .busted
  | 3 => .skipped
  | 4 => .exception
  | 5 => .retry
  | 6 => .usercancel
  | 8 => .superseded
  | _ => .unknown

/-- The name of a result. -/
def name : StepResult → String
  | .success => "success"
  | .testfailed => "testfailed"
  | .busted => "busted"
  | .skipped => "skipped"
  | .exception => "exception"
  | .retry => "retry"
  | .usercancel => "usercancel"
  | .unknown => "unknown"
  | .superseded => "superseded"

/-- All results. -/
def all : List StepResult :=
  [.success, .testfailed, .busted, .skipped, .exception, .retry, .usercancel, .unknown,
    .superseded]

/-- The JSON of a result. -/
def toJson (r : StepResult) : Json := .str r.name

/-- Reads a result. -/
def ofJson? (v : Json) : Option StepResult := v.variant? (all.map fun r => (r.name, r))

end StepResult

/-- A step of a job. A step without a name holds errors that stand outside the named steps. -/
structure Step where
  name : String
  /-- The number of steps before it. -/
  order : Nat
  firstLine : Nat
  lastLine : Nat
  started? : Option Timestamp
  finished? : Option Timestamp
  /-- The seconds between the two timestamps. -/
  seconds? : Option Double
  result : StepResult
  errors : List ErrorLine
  errorCount : Nat
  deriving DecidableEq

namespace Step

/-- A step that was just opened. -/
def begin (name : String) (order line : Nat) (started? : Option Timestamp) : Step :=
  ⟨name, order, line, line, started?, none, none, .unknown, [], 0⟩

/-- Microseconds in seconds. -/
def secondsOfMicros? (us : Int) : Option Double := do
  let x ← Double.ofInt? us
  let million ← Double.ofInt? 1000000
  x.div? million

/-- The seconds from the start to the finish, if both are known. -/
def duration? (started? finished? : Option Timestamp) : Option Double := do
  let started ← started?
  let finished ← finished?
  (finished.microsSince? started).bind secondsOfMicros?

/-- The step closed at a line. -/
def finish (s : Step) (line : Nat) (finished? : Option Timestamp) (result : StepResult) : Step :=
  { s with
    lastLine := line
    finished? := finished?
    seconds? := duration? s.started? finished?
    result := result }

/-- The step with one more error. -/
def addError (s : Step) (e : ErrorLine) : Step :=
  { s with errors := s.errors ++ [e], errorCount := s.errors.length + 1 }

/-- The JSON of a timestamp that may be missing. -/
def timeJson (t? : Option Timestamp) : Json := .ofString? (t?.map Timestamp.write)

/-- Reads a timestamp that may be missing. -/
def timeOfJson? : Json → Option (Option Timestamp) :=
  Json.nullable? fun v => v.text?.bind Timestamp.read?

/-- The JSON of a double that may be missing. -/
def doubleJson : Option Double → Json
  | none => .null
  | some x => .num (.float x)

/-- The JSON of a step. -/
def toJson (s : Step) : Json :=
  .obj [
    ("duration_secs", doubleJson s.seconds?),
    ("error_count", .ofNat s.errorCount),
    ("errors", .arr (s.errors.map ErrorLine.toJson)),
    ("finished", timeJson s.finished?),
    ("finished_linenumber", .ofNat s.lastLine),
    ("name", .str s.name),
    ("order", .ofNat s.order),
    ("result", s.result.toJson),
    ("started", timeJson s.started?),
    ("started_linenumber", .ofNat s.firstLine)]

/-- The fields of a step. -/
def fields : List (String × Shape) := [
  ("name", .whole), ("order", .whole), ("started_linenumber", .whole),
  ("finished_linenumber", .whole), ("started", .whole), ("finished", .whole),
  ("duration_secs", .whole), ("result", .whole), ("errors", .list ErrorLine.shape),
  ("error_count", .whole)]

/-- Reads a step. -/
def ofJson? (v : Json) : Option Step := do
  let r ← v.record? (fields.map (·.1))
  let name ← r.required? "name" Json.text?
  let order ← r.required? "order" Json.natural?
  let firstLine ← r.required? "started_linenumber" Json.natural?
  let lastLine ← r.required? "finished_linenumber" Json.natural?
  let started? ← r.required? "started" timeOfJson?
  let finished? ← r.required? "finished" timeOfJson?
  let seconds? ← r.optional? "duration_secs" Json.double?
  let result ← r.required? "result" StepResult.ofJson?
  let errors ← r.required? "errors" (Json.list? ErrorLine.ofJson?)
  let errorCount ← r.required? "error_count" Json.natural?
  some ⟨name, order, firstLine, lastLine, started?, finished?, seconds?, result, errors, errorCount⟩

end Step

/-- The steps of a job and all their errors, up to a cap. -/
structure StepData where
  steps : List Step
  truncated : Bool
  errors : List ErrorLine
  deriving DecidableEq

namespace StepData

/-- The JSON of the steps. -/
def toJson (d : StepData) : Json :=
  .obj [
    ("all_errors", .arr (d.errors.map ErrorLine.toJson)),
    ("errors_truncated", .bool d.truncated),
    ("steps", .arr (d.steps.map Step.toJson))]

/-- The fields of the steps. -/
def fields : List (String × Shape) := [
  ("steps", .list (.record Step.fields)), ("errors_truncated", .whole),
  ("all_errors", .list ErrorLine.shape)]

/-- Reads the steps. -/
def ofJson? (v : Json) : Option StepData := do
  let r ← v.record? (fields.map (·.1))
  let steps ← r.required? "steps" (Json.list? Step.ofJson?)
  let truncated ← r.required? "errors_truncated" Json.bool?
  let errors ← r.required? "all_errors" (Json.list? ErrorLine.ofJson?)
  some ⟨steps, truncated, errors⟩

end StepData

/-- The summary of a log by steps. -/
structure StepSummary where
  logUrl : String
  data : StepData
  deriving DecidableEq

namespace StepSummary

/-- The JSON of a summary. -/
def toJson (s : StepSummary) : Json :=
  .obj [("logurl", .str s.logUrl), ("step_data", s.data.toJson)]

/-- Reads a summary. -/
def ofJson? (v : Json) : Option StepSummary := do
  let r ← v.record? ["logurl", "step_data"]
  let logUrl ← r.required? "logurl" Json.text?
  let data ← r.required? "step_data" StepData.ofJson?
  some ⟨logUrl, data⟩

end StepSummary
end JobLog
