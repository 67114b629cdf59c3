import JobLog.Artifact
import JobLog.Settings.Basic
import JobLog.Step.Log
import JobLog.Text.Split

/-!
# Builders

A builder reads the lines of a log and makes one artifact.

* `BuilderKind.readList` reads a choice of builders.
* `Builder.line`, `Builder.finish` and `Builder.artifact` are the life of a builder.
-/

namespace JobLog

/-- The kinds of builders. -/
inductive BuilderKind
  | steps
  | jobInfo
  | performance
  deriving DecidableEq, Repr

namespace BuilderKind

/-- All kinds, in the order in which they are run. -/
def all : List BuilderKind := [.steps, .jobInfo, .performance]

/-- The name of the artifact. -/
def artifactName : BuilderKind → String
  | .steps => Artifacts.stepsName
  | .jobInfo => Artifacts.jobInfoName
  | .performance => Artifacts.performanceName

/-- The short name of a builder. -/
def shortName : BuilderKind → String
  | .steps => "text"
  | .jobInfo => "jobinfo"
  | .performance => "perf"

/-- The builder of a name. -/
def ofName? (name : String) : Option BuilderKind :=
  all.find? fun k => name = k.shortName || name = k.artifactName

/-- The names in a list with commas; blank parts are left out. -/
def namesIn (s : String) : List String :=
  ((Text.split ',' s.toList).map fun w => String.ofList (Text.trim w)).filter (· ≠ "")

/-- Reads a list of builders, each once and in the order in which they are run; otherwise the name
that is unknown. -/
def readList (s : String) : Except String (List BuilderKind) := do
  let requested ← (namesIn s).mapM fun name =>
    match ofName? name with
    | some k => .ok k
    | none => .error name
  .ok (all.filter requested.contains)

/-- The message for an unknown builder. -/
def unknownMessage (name : String) : String :=
  s!"unknown builder: {name} (expected text, jobinfo or perf)"

end BuilderKind

/-- A builder and what it has found so far. -/
inductive Builder
  | steps (l : StepLog)
  | jobInfo (l : JobDetailLog)
  | performance (l : PerformanceLog)

namespace Builder

/-- A new builder. -/
def start (settings : Settings) : BuilderKind → Builder
  | .steps => .steps (.start settings.maxErrorLines)
  | .jobInfo => .jobInfo .start
  | .performance => .performance (.start false)

/-- A new builder of performance data that fails where a list is wrong. -/
def startStrict : Builder := .performance (.start true)

/-- The kind of a builder. -/
def kind : Builder → BuilderKind
  | .steps _ => .steps
  | .jobInfo _ => .jobInfo
  | .performance _ => .performance

/-- The name of the artifact. -/
def name (b : Builder) : String := b.kind.artifactName

/-- The builder needs no more lines. -/
def isComplete : Builder → Bool
  | .jobInfo l => l.complete
  | _ => false

/-- The builder behind a line, and the error it reports. -/
def line (text : String) (number : Nat) : Builder → Builder × Option String
  | .steps l => (.steps (l.line text number), none)
  | .jobInfo l => (.jobInfo (l.line text), none)
  | .performance l => (.performance (l.line text).1, (l.line text).2.map (·.message))

/-- The builder at the end of the log. -/
def finish (lastLine : Nat) : Builder → Builder
  | .steps l => .steps (l.finish lastLine)
  | .jobInfo l => .jobInfo l.finish
  | .performance l => .performance l

/-- The artifact made so far. -/
def artifact (logUrl : String) : Builder → Artifact
  | .steps l => .steps (l.summary logUrl)
  | .jobInfo l => .jobInfo (l.info logUrl)
  | .performance l => .performance (l.data logUrl)

end Builder
end JobLog
