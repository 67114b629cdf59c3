import JobLog.Proofs.Run.Made
import JobLog.Proofs.Step.Growth

/-!
# Logs that break off

A run over the first lines of a log makes what a run over the whole log makes, as far as these lines
go: the steps are compared as in `StepData.GrowsInto`, and job details and performance data are put
behind those that were found before.

* `Run.parse` is the run of all builders over a log, and `Run.parse_eq` says that it always succeeds
  and with what.
* `Run.parse_take` is the result for a log and its first lines.
-/

namespace JobLog

/-! ### What a run makes -/

/-- A log with what all builders make, without failures. -/
def ParsedLog.ofParts (logUrl : String) (count : Nat) (data : StepData) (details : List JobDetail)
    (payloads : List Json) : ParsedLog :=
  ⟨logUrl, [(Artifacts.jobInfoName, .jobInfo ⟨logUrl, details⟩),
    (Artifacts.performanceName, .performance ⟨logUrl, payloads⟩),
    (Artifacts.stepsName, .steps ⟨logUrl, data⟩)], [], count⟩

namespace Run

/-- The result of a run of all builders over lines, which are numbered from one. -/
def parse (logUrl : String) (settings : Settings) (ls : List String) : Except RunError ParsedLog :=
  ((ofKinds logUrl BuilderKind.all settings).lines (ls.zipIdx 1)).finish ls.length

/-- The artifacts of all builders in the order of their names. -/
theorem insertAll_parts (steps jobInfo performance : Artifact) :
    Artifacts.insertAll [] [(Artifacts.stepsName, steps), (Artifacts.jobInfoName, jobInfo),
        (Artifacts.performanceName, performance)] =
      [(Artifacts.jobInfoName, jobInfo), (Artifacts.performanceName, performance),
        (Artifacts.stepsName, steps)] := by
  have hjobInfo : Artifacts.jobInfoName < Artifacts.stepsName := by decide +kernel
  have hperformance : Artifacts.performanceName < Artifacts.stepsName := by decide +kernel
  have hlt : ¬ Artifacts.performanceName < Artifacts.jobInfoName := by decide +kernel
  have hne : Artifacts.performanceName ≠ Artifacts.jobInfoName := by decide
  simp [Artifacts.insertAll, Artifacts.insert, hjobInfo, hperformance, hlt, hne]

/-- **A run of all builders succeeds.** -/
theorem parse_eq (logUrl : String) (settings : Settings) (ls : List String) :
    parse logUrl settings ls =
      .ok (.ofParts logUrl ls.length ((stepLog settings ls).finish ls.length).data
        ((numbered settings ls).flatMap fun x => (JobDetail.ofLine? x.1).toList)
        ((numbered settings ls).flatMap fun x => Performance.payloadsOf x.1)) := by
  rw [parse, finish_ofKinds, ParsedLog.ofParts, ← insertAll_parts]
  rfl

theorem numbered_append (settings : Settings) (ls more : List String) :
    ∃ rest, numbered settings (ls ++ more) = numbered settings ls ++ rest := by
  unfold numbered cutLines
  rw [List.zipIdx_append, List.map_append]
  exact ⟨_, rfl⟩

/-- **A log that breaks off gives a stable part of the result.** The run over the first lines
succeeds as the run over all lines does. The steps that markers have closed in the first lines stay
as they are, and the step that is open there goes on in the whole log; errors, job details and
performance data stay at the start of those of the whole log. -/
theorem parse_take (logUrl : String) (settings : Settings) (ls : List String) (k : Nat) :
    ∃ (d d' : StepData) (details details' : List JobDetail) (payloads payloads' : List Json),
      parse logUrl settings (ls.take k) =
        .ok (.ofParts logUrl (ls.take k).length d details payloads) ∧
      parse logUrl settings ls = .ok (.ofParts logUrl ls.length d' details' payloads') ∧
      d.GrowsInto (stepLog settings (ls.take k)).closed d' ∧
      details <+: details' ∧ payloads <+: payloads' := by
  obtain ⟨rest, hrest⟩ := numbered_append settings (ls.take k) (ls.drop k)
  rw [List.take_append_drop] at hrest
  refine ⟨_, _, _, _, _, _, parse_eq logUrl settings _, parse_eq logUrl settings _, ?_, ?_, ?_⟩
  · have hlive : (stepLog settings (ls.take k)).phase ≠ .ended :=
      StepLog.lines_live (by simp [StepLog.start]) _
    have hgrows := StepLog.data_growsInto hlive rest (ls.take k).length ls.length
    rwa [stepLog, ← StepLog.lines_append, ← hrest] at hgrows
  · rw [hrest, List.flatMap_append]
    exact List.prefix_append _ _
  · rw [hrest, List.flatMap_append]
    exact List.prefix_append _ _

end Run
end JobLog
