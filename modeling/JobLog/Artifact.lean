import JobLog.Bug.Basic
import JobLog.JobDetail
import JobLog.Performance.Log
import JobLog.Step.Basic

/-!
# Artifacts

What is made from a log, by name. The JSON of an artifact does not tell its kind; it is read as the
first kind that fits.
-/

namespace JobLog

/-- An artifact of a log. -/
inductive Artifact
  | steps (s : StepSummary)
  | jobInfo (i : JobInfo)
  | performance (d : PerformanceData)
  | suggestions (ss : List BugSuggestion)

namespace Artifact

/-- The JSON of an artifact. -/
def toJson : Artifact → Json
  | .steps s => s.toJson
  | .jobInfo i => i.toJson
  | .performance d => d.toJson
  | .suggestions ss => .arr (ss.map BugSuggestion.toJson)

/-- Reads an artifact. -/
def ofJson? (v : Json) : Option Artifact :=
  ((StepSummary.ofJson? v).map steps).or <|
    ((JobInfo.ofJson? v).map jobInfo).or <|
      ((PerformanceData.ofJson? v).map performance).or <|
        ((v.list? BugSuggestion.ofJson?).map suggestions)

/-- The summary of the steps, if the artifact is one. -/
def steps? : Artifact → Option StepSummary
  | .steps s => some s
  | _ => none

end Artifact

/-- Artifacts in the order of their names. -/
abbrev Artifacts := List (String × Artifact)

namespace Artifacts

/-- The name of the summary of the steps. -/
def stepsName : String := "text_log_summary"

/-- The name of the job details. -/
def jobInfoName : String := "Job Info"

/-- The name of the performance data. -/
def performanceName : String := "performance_data"

/-- The name of the bug suggestions. -/
def suggestionsName : String := "Bug suggestions"

/-- Sets the artifact of a name. -/
def insert (name : String) (a : Artifact) : Artifacts → Artifacts
  | [] => [(name, a)]
  | (n, b) :: rest =>
    if name < n then (name, a) :: (n, b) :: rest
    else if name = n then (name, a) :: rest
    else (n, b) :: insert name a rest

/-- The JSON of artifacts. -/
def toJson (as : Artifacts) : Json := .obj (as.map fun a => (a.1, a.2.toJson))

end Artifacts
end JobLog
