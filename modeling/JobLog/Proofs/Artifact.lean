import JobLog.Artifact
import JobLog.Proofs.Json.Canonical
import JobLog.Proofs.Json.Record
import JobLog.Proofs.Timestamp

/-!
# Artifacts that are read back

The JSON of an artifact reads as the artifact: each part is read back from its own JSON, and no
kind that is tried earlier takes the JSON of a later one.

* There is one theorem `ofJson?_toJson` for each part of an artifact.
* `Artifact.IsCanonical` is what the payloads of performance data need.
* `Artifact.ofJson?_toJson` is the whole.
-/

namespace JobLog

open Json (list?_map record?_obj)

/-! ### Steps -/

theorem ErrorLine.ofJson?_toJson (e : ErrorLine) : ErrorLine.ofJson? e.toJson = some e := by
  rw [ofJson?, toJson, record?_obj (by simp) (by simp)]
  simp

theorem StepResult.ofJson?_toJson (r : StepResult) : StepResult.ofJson? r.toJson = some r := by
  cases r <;> rfl

namespace Step

theorem timeOfJson?_timeJson (t? : Option Timestamp) : timeOfJson? (timeJson t?) = some t? := by
  cases t? with
  | none => rfl
  | some t => simp [timeJson, timeOfJson?, Json.ofString?, Json.nullable?, Timestamp.read?_write]

theorem double?_doubleJson (x? : Option Double) :
    Json.nullable? Json.double? (doubleJson x?) = some x? := by
  cases x? <;> rfl

theorem ofJson?_toJson (s : Step) : Step.ofJson? s.toJson = some s := by
  rw [ofJson?, toJson, record?_obj (by simp) (by simp [fields])]
  simp [timeOfJson?_timeJson, double?_doubleJson, StepResult.ofJson?_toJson,
    list?_map ErrorLine.ofJson?_toJson]

end Step

theorem StepData.ofJson?_toJson (d : StepData) : StepData.ofJson? d.toJson = some d := by
  rw [ofJson?, toJson, record?_obj (by simp) (by simp [fields])]
  simp [list?_map Step.ofJson?_toJson, list?_map ErrorLine.ofJson?_toJson]

theorem StepSummary.ofJson?_toJson (s : StepSummary) : StepSummary.ofJson? s.toJson = some s := by
  rw [ofJson?, toJson, record?_obj (by simp) (by simp)]
  simp [StepData.ofJson?_toJson]

/-! ### Job details -/

theorem ContentType.ofJson?_toJson (t : ContentType) : ContentType.ofJson? t.toJson = some t := by
  cases t <;> rfl

theorem JobDetail.ofJson?_toJson (d : JobDetail) : JobDetail.ofJson? d.toJson = some d := by
  rw [ofJson?, toJson, record?_obj (by simp) (by simp [fields])]
  simp [ContentType.ofJson?_toJson]

theorem JobInfo.ofJson?_toJson (i : JobInfo) : JobInfo.ofJson? i.toJson = some i := by
  rw [ofJson?, toJson, record?_obj (by simp) (by simp)]
  simp [list?_map JobDetail.ofJson?_toJson]

/-! ### Performance data -/

theorem PerformanceData.ofJson?_toJson {d : PerformanceData}
    (h : ∀ v ∈ d.payloads, v.IsCanonical) : PerformanceData.ofJson? d.toJson = some d := by
  have hpayloads : d.payloads.map Json.canonical = d.payloads :=
    (List.map_congr_left h).trans (List.map_id _)
  rw [ofJson?, toJson, record?_obj (by simp) (by simp)]
  simp [Json.list?_eq_map, hpayloads]

/-! ### Bug suggestions -/

theorem Bug.ofJson?_toJson (b : Bug) : Bug.ofJson? b.toJson = some b := by
  rw [ofJson?, toJson, record?_obj (by simp) (by simp [fields])]
  simp

theorem Bugs.ofJson?_toJson (b : Bugs) : Bugs.ofJson? b.toJson = some b := by
  rw [ofJson?, toJson, record?_obj (by simp) (by simp [fields])]
  simp [list?_map Bug.ofJson?_toJson]

theorem BugSuggestion.ofJson?_toJson (s : BugSuggestion) :
    BugSuggestion.ofJson? s.toJson = some s := by
  rw [ofJson?, toJson, record?_obj (by simp) (by simp [fields])]
  simp [Bugs.ofJson?_toJson, list?_map Json.text?_str]

/-! ### Artifacts -/

namespace Artifact

/-- The payloads of performance data are canonical; other artifacts hold no JSON. -/
def IsCanonical : Artifact → Prop
  | .performance d => ∀ v ∈ d.payloads, v.IsCanonical
  | _ => True

/-! The kinds that are tried earlier do not take the JSON of a later one. -/

theorem stepSummary_jobInfo (i : JobInfo) : StepSummary.ofJson? i.toJson = none := by
  simp [StepSummary.ofJson?, JobInfo.toJson, Json.record?]

theorem stepSummary_performance (d : PerformanceData) : StepSummary.ofJson? d.toJson = none := by
  simp [StepSummary.ofJson?, PerformanceData.toJson, Json.record?]

theorem jobInfo_performance (d : PerformanceData) : JobInfo.ofJson? d.toJson = none := by
  simp [JobInfo.ofJson?, PerformanceData.toJson, Json.record?]

/-- The first item of a list of suggestions is no text. -/
theorem head_suggestions (ss : List BugSuggestion) :
    ∀ v ∈ (ss.map BugSuggestion.toJson).head?, v.text? = none := by
  intro v hv
  cases ss with
  | nil => exact nomatch hv
  | cons s ss =>
    obtain rfl := Option.some.inj hv
    rfl

/-- **An artifact is read back from its JSON.** -/
theorem ofJson?_toJson {a : Artifact} (h : a.IsCanonical) : ofJson? a.toJson = some a := by
  cases a with
  | steps s =>
    rw [ofJson?, toJson, StepSummary.ofJson?_toJson]
    rfl
  | jobInfo i =>
    rw [ofJson?, toJson, stepSummary_jobInfo, JobInfo.ofJson?_toJson]
    rfl
  | performance d =>
    rw [ofJson?, toJson, stepSummary_performance, jobInfo_performance,
      PerformanceData.ofJson?_toJson h]
    rfl
  | suggestions ss =>
    have hhead := head_suggestions ss
    have hsteps : StepSummary.ofJson? (toJson (.suggestions ss)) = none :=
      Json.record?_arr_bind hhead _
    have hinfo : JobInfo.ofJson? (toJson (.suggestions ss)) = none :=
      Json.record?_arr_bind hhead _
    have hdata : PerformanceData.ofJson? (toJson (.suggestions ss)) = none :=
      Json.record?_arr_bind hhead _
    have hlist : (toJson (.suggestions ss)).list? BugSuggestion.ofJson? = some ss :=
      list?_map BugSuggestion.ofJson?_toJson ss
    rw [ofJson?, hsteps, hinfo, hdata, hlist]
    rfl

end Artifact
end JobLog
