import JobLog.Proofs.Performance.Payloads
import JobLog.Proofs.Run.Isolation

/-!
# What a run makes

Each builder makes its artifact from the cut lines alone, so a run of builders of any kinds is told
by its lines.

* `Builder.outcome_steps`, `Builder.outcome_jobInfo` and `Builder.outcome_performance` tell what
  each builder makes from the cut lines.
* `BuilderKind.made` is what a new builder of a kind makes.
* `Run.finish_ofKinds` says that a run of any kinds succeeds and with what, and
  `Run.steps?_finish_ofKinds` finds the summary of the steps there.
-/

namespace JobLog

/-- The lines as the builders get them. -/
def cutLines (max : Nat) (ls : List (String × Nat)) : List (String × Nat) :=
  ls.map fun x => (cutLine max x.1, x.2)

/-! ### What each builder makes -/

namespace Builder

theorem outcome_steps (l : StepLog) (logUrl : String) (max n : Nat) (ls : List (String × Nat)) :
    (Builder.steps l).outcome logUrl max n ls =
      .ok (.steps (((l.lines (cutLines max ls)).finish n).summary logUrl)) := by
  induction ls generalizing l with
  | nil => rfl
  | cons x ls ih => exact ih (l.line (cutLine max x.1) x.2)

theorem outcome_jobInfo {l : JobDetailLog} (h : l.complete = false) (logUrl : String)
    (max n : Nat) (ls : List (String × Nat)) :
    (Builder.jobInfo l).outcome logUrl max n ls =
      .ok (.jobInfo ⟨logUrl,
        l.details ++ (cutLines max ls).flatMap fun x => (JobDetail.ofLine? x.1).toList⟩) := by
  induction ls generalizing l with
  | nil => simp [outcome, finish, artifact, JobDetailLog.finish, JobDetailLog.info, cutLines]
  | cons x ls ih =>
    have hline : l.line (cutLine max x.1) =
        ⟨l.details ++ (JobDetail.ofLine? (cutLine max x.1)).toList, false⟩ := by
      simp [JobDetailLog.line, h]
    have hstep : (Builder.jobInfo l).outcome logUrl max n (x :: ls) =
        (Builder.jobInfo (l.line (cutLine max x.1))).outcome logUrl max n ls := by
      simp [outcome, isComplete, h, line]
    rw [hstep, hline, ih rfl, List.append_assoc]
    rfl

theorem outcome_performance {l : PerformanceLog} (h : l.strict = false) (logUrl : String)
    (max n : Nat) (ls : List (String × Nat)) :
    (Builder.performance l).outcome logUrl max n ls =
      .ok (.performance ⟨logUrl,
        l.payloads ++ (cutLines max ls).flatMap fun x => Performance.payloadsOf x.1⟩) := by
  induction ls generalizing l with
  | nil => simp [outcome, finish, artifact, PerformanceLog.data, cutLines]
  | cons x ls ih =>
    have hstep : (Builder.performance l).outcome logUrl max n (x :: ls) =
        (Builder.performance (l.add (Performance.payloadsOf (cutLine max x.1)))).outcome
          logUrl max n ls := by
      simp [outcome, isComplete, line, PerformanceLog.line_of_lenient h]
    have hlenient : (l.add (Performance.payloadsOf (cutLine max x.1))).strict = false := h
    rw [hstep, ih hlenient]
    simp [PerformanceLog.add, cutLines]

end Builder

/-! ### What a builder of a kind makes -/

namespace Run

/-- The lines as the builders get them, with their numbers. -/
def numbered (settings : Settings) (ls : List String) : List (String × Nat) :=
  cutLines settings.maxLineLength (ls.zipIdx 1)

/-- The steps behind the lines, before the end of the log. -/
def stepLog (settings : Settings) (ls : List String) : StepLog :=
  (StepLog.start settings.maxErrorLines).lines (numbered settings ls)

end Run

namespace BuilderKind

/-- What a new builder of a kind makes from lines that are numbered from one. -/
def made (logUrl : String) (settings : Settings) (ls : List String) : BuilderKind → Artifact
  | .steps => .steps (((Run.stepLog settings ls).finish ls.length).summary logUrl)
  | .jobInfo => .jobInfo ⟨logUrl,
      (Run.numbered settings ls).flatMap fun x => (JobDetail.ofLine? x.1).toList⟩
  | .performance => .performance ⟨logUrl,
      (Run.numbered settings ls).flatMap fun x => Performance.payloadsOf x.1⟩

theorem outcome_start (logUrl : String) (settings : Settings) (ls : List String)
    (kind : BuilderKind) :
    (Builder.start settings kind).outcome logUrl settings.maxLineLength ls.length (ls.zipIdx 1) =
      .ok (kind.made logUrl settings ls) := by
  cases kind with
  | steps => exact Builder.outcome_steps _ _ _ _ _
  | jobInfo => exact Builder.outcome_jobInfo (l := .start) rfl _ _ _ _
  | performance => exact Builder.outcome_performance (l := .start false) rfl _ _ _ _

theorem name_start (settings : Settings) (kind : BuilderKind) :
    (Builder.start settings kind).name = kind.artifactName := by
  cases kind <;> rfl

theorem artifactName_injective {k k' : BuilderKind} (h : k.artifactName = k'.artifactName) :
    k = k' := by
  revert h
  cases k <;> cases k' <;> decide

/-- Among things named after their kind, a kind is found where it is there. -/
theorem lookup_artifactName (kinds : List BuilderKind) (f : BuilderKind → Artifact)
    (kind : BuilderKind) :
    (kinds.map fun k => (k.artifactName, f k)).lookup kind.artifactName =
      if kind ∈ kinds then some (f kind) else none := by
  induction kinds with
  | nil => rfl
  | cons k kinds ih =>
    rw [List.map_cons, List.lookup_cons, ih]
    by_cases hk : kind = k
    · simp [hk]
    · have hname : (kind.artifactName == k.artifactName) = false :=
        beq_eq_false_iff_ne.2 fun h => hk (artifactName_injective h)
      simp [hname, hk]

end BuilderKind

/-! ### What a run makes -/

namespace Run

/-- A run of builders of any kinds succeeds. -/
theorem finish_ofKinds (logUrl : String) (kinds : List BuilderKind) (settings : Settings)
    (ls : List String) :
    ((ofKinds logUrl kinds settings).lines (ls.zipIdx 1)).finish ls.length =
      .ok ⟨logUrl, Artifacts.insertAll [] (kinds.map fun k =>
        (k.artifactName, k.made logUrl settings ls)), [], ls.length⟩ := by
  have hfailures : (kinds.map (Builder.start settings)).filterMap (fun b => b.failure?
      (b.outcome logUrl settings.maxLineLength ls.length (ls.zipIdx 1))) = [] := by
    rw [List.filterMap_map, List.filterMap_eq_nil_iff]
    intro k _
    rw [Function.comp_apply, BuilderKind.outcome_start]
    rfl
  have hmade : (kinds.map (Builder.start settings)).filterMap (fun b => b.made?
      (b.outcome logUrl settings.maxLineLength ls.length (ls.zipIdx 1))) =
        kinds.map fun k => (k.artifactName, k.made logUrl settings ls) := by
    rw [List.filterMap_map, ← List.filterMap_eq_map]
    refine List.filterMap_congr fun k _ => ?_
    rw [Function.comp_apply, BuilderKind.outcome_start, Builder.made?, BuilderKind.name_start]
    rfl
  unfold ofKinds
  rw [finish_lines]
  simp only [hfailures, hmade, List.isEmpty_nil, Bool.not_true, Bool.and_false, Bool.false_eq_true,
    if_false]

theorem steps?_finish_ofKinds (logUrl : String) (kinds : List BuilderKind) (settings : Settings)
    (ls : List String) {p : ParsedLog}
    (hp : ((ofKinds logUrl kinds settings).lines (ls.zipIdx 1)).finish ls.length = .ok p) :
    p.steps? =
      if .steps ∈ kinds then some (((stepLog settings ls).finish ls.length).summary logUrl)
      else none := by
  rw [finish_ofKinds] at hp
  obtain rfl := Except.ok.inj hp
  have hname : Artifacts.stepsName = BuilderKind.steps.artifactName := rfl
  rw [ParsedLog.steps?, Artifacts.lookup_insertAll, ← List.map_reverse, hname,
    BuilderKind.lookup_artifactName, List.lookup_nil, Option.or_none]
  simp only [List.mem_reverse]
  split <;> rfl

end Run
end JobLog
