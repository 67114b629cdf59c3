import JobLog.Json.Record
import JobLog.Json.Written
import JobLog.Source.Basic
import JobLog.Text.Quoted

/-!
# Errors of a run

A run either gives all it was asked for or one error. The error settles what its caller does: the
status the log gets, whether it is worth another try, and the exit code of the command.
-/

namespace JobLog

open Json (Shape)

/-- The status of a job log. -/
inductive JobLogStatus
  | pending
  | parsed
  | failed
  | skippedSize
  deriving DecidableEq, Repr

namespace JobLogStatus

/-- The name of a status. -/
def name : JobLogStatus → String
  | .pending => "pending"
  | .parsed => "parsed"
  | .failed => "failed"
  | .skippedSize => "skipped-size"

/-- The JSON of a status. -/
def toJson (s : JobLogStatus) : Json := .str s.name

/-- Reads a status. -/
def ofJson? (v : Json) : Option JobLogStatus :=
  v.variant? ([pending, parsed, failed, skippedSize].map fun s => (s.name, s))

end JobLogStatus

/-- A builder that failed, and why. -/
structure BuilderFailure where
  builder : String
  reason : String
  deriving DecidableEq, Repr

namespace BuilderFailure

/-- The JSON of a failure. -/
def toJson (f : BuilderFailure) : Json :=
  .obj [("builder", .str f.builder), ("reason", .str f.reason)]

/-- The fields of a failure. -/
def fields : List (String × Shape) := [("builder", .whole), ("reason", .whole)]

/-- Reads a failure. -/
def ofJson? (v : Json) : Option BuilderFailure := do
  let r ← v.record? (fields.map (·.1))
  let builder ← r.required? "builder" Json.text?
  let reason ← r.required? "reason" Json.text?
  some ⟨builder, reason⟩

/-- The failure in a list of failures. -/
def describe (f : BuilderFailure) : String :=
  "BuilderFailure \x7b builder: " ++ Text.quoted f.builder ++ ", reason: " ++ Text.quoted f.reason
    ++ " \x7d"

end BuilderFailure

/-- Why a run gave nothing. -/
inductive RunError
  /-- The log could not be fetched; the status of the answer, if there was one. -/
  | fetch (url : String) (status? : Option Nat) (reason : String)
  /-- The log is larger than the limit. -/
  | logSize (limit : Nat)
  | cancelled
  | invalidUrl (text : String)
  /-- Reading failed. -/
  | io (kind : IoKind)
  | allBuildersFailed (failures : List BuilderFailure)
  deriving DecidableEq, Repr

/-- The description of a kind of failure. -/
def IoKind.describe : IoKind → String
  | .notFound => "entity not found"
  | .unexpectedEof => "unexpected end of file"
  | .invalidInput => "invalid input parameter"
  | .interrupted => "operation interrupted"
  | .other => "other error"

namespace RunError

/-- The error of a failed read. -/
def ofRead : ReadError → RunError
  | .io kind => .io kind
  | .overLimit limit => .logSize limit

/-- The message of an error. -/
def message : RunError → String
  | .fetch url _ reason => s!"can't fetch {url}: {reason}"
  | .logSize limit => s!"log exceeds the {limit} bytes limit"
  | .cancelled => "parse cancelled"
  | .invalidUrl text => s!"invalid url: {text}"
  | .io kind => s!"read error: {kind.describe}"
  | .allBuildersFailed failures =>
    "all builders failed: [" ++ ", ".intercalate (failures.map BuilderFailure.describe) ++ "]"

/-- The status of the answer that refused the log. -/
def httpStatus? : RunError → Option Nat
  | .fetch _ status? _ => status?
  | _ => none

/-- Another try may succeed. -/
def isRetryable : RunError → Bool
  | .fetch _ status? _ => status? != some 403 && status? != some 404
  | .io _ => true
  | _ => false

/-- The status of the log. -/
def jobLogStatus : RunError → JobLogStatus
  | .logSize _ => .skippedSize
  | _ => .failed

/-- The exit code of the command. -/
def exitCode : RunError → Nat
  | .fetch _ _ _ | .invalidUrl _ | .io _ => 2
  | .logSize _ => 3
  | .cancelled => 4
  | .allBuildersFailed _ => 1

end RunError
end JobLog
