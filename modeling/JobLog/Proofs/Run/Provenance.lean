import JobLog.Proofs.ErrorLine.Worker
import JobLog.Proofs.Run.Cancellation
import JobLog.Proofs.Run.CutLine
import JobLog.Proofs.Run.Made
import JobLog.Proofs.Step.Cap

/-!
# Where errors come from

Each error in the summary of a log is a line of the log: cut, without the prefix of the worker where
the log is known to carry it, and without white space at its end.

* `Classifier.Classified` is what is left of a line for the decision, by the lines before it.
* `exists_line_of_mem_errorsIn` finds the line of an error.
* `Run.errors_stepLog` is the result for the lines of a log.
* `Run.errors_foundIn` is the result for all sources and settings.
-/

namespace JobLog

/-! ### Lines that are classified -/

namespace Classifier

/-- What is left of a line for the decision: behind lines of a worker, itself included, the payload
of a line with a prefix, and each other line as it is. -/
inductive Classified (before : List String) (line : String) : String → Prop
  | payload {payload : String} : (∃ x ∈ before ++ [line], Introduces x) → Prefixed line payload →
      Classified before line payload
  | whole : ¬ ((∃ x ∈ before ++ [line], Introduces x) ∧ ∃ payload, Prefixed line payload) →
      Classified before line line

theorem taskcluster_after_afterLines_iff (before : List String) (line : String) :
    ((start.afterLines before).after line).taskcluster = true ↔
      ∃ x ∈ before ++ [line], Introduces x := by
  have happend : (start.afterLines before).after line = start.afterLines (before ++ [line]) := by
    simp [afterLines]
  rw [happend, taskcluster_afterLines_iff]
  simp [start]

theorem classified_normalize (before : List String) (line : String) :
    Classified before line ((start.afterLines before).normalize line) := by
  have hcontext := taskcluster_after_afterLines_iff before line
  by_cases hseen : ∃ x ∈ before ++ [line], Introduces x
  · by_cases hprefixed : ∃ payload, Prefixed line payload
    · obtain ⟨payload, hpayload⟩ := hprefixed
      rw [normalize_of_prefixed (hcontext.2 hseen) hpayload]
      exact .payload hseen hpayload
    · rw [normalize_of_not_prefixed (hcontext.2 hseen) fun p hp => hprefixed ⟨p, hp⟩]
      exact .whole fun h => hprefixed h.2
  · rw [normalize_of_not_taskcluster (hcontext.not.2 hseen)]
    exact .whole fun h => hseen h.1

/-- What is left of a line is its end. -/
theorem Classified.suffix {before : List String} {line text : String}
    (h : Classified before line text) : text.toList <:+ line.toList := by
  cases h with
  | payload _ hprefixed =>
    obtain ⟨name, -, rfl⟩ := hprefixed
    rw [String.toList_append]
    exact List.suffix_append _ _
  | whole => exact List.suffix_rfl

theorem error?_eq_some_iff {k : Classifier} {line text : String} :
    k.error? line = some text ↔ text = k.normalize line ∧ isErrorLine text = true := by
  unfold error?
  split
  case isTrue h => exact ⟨fun heq => by obtain rfl := Option.some.inj heq; exact ⟨rfl, h⟩,
    fun ⟨heq, _⟩ => by rw [heq]⟩
  case isFalse h => exact ⟨nofun, fun ⟨heq, htext⟩ => absurd (heq ▸ htext) h⟩

/-- A marker is no first line of a worker. -/
theorem after_of_marker {isOpen : Bool} {text : String} {m : Marker}
    (h : markerAt? isOpen text = some m) (k : Classifier) : k.after text = k := by
  obtain ⟨r, hdrop, -⟩ := Option.bind_eq_some_iff.1 h
  have htext := Text.Pattern.dropLit?_eq_some_iff.1 hdrop
  have hnone : marker.isPrefixOf text.toList = false := by
    rw [htext]
    rfl
  rw [after, hnone, Bool.or_false]

end Classifier

/-! ### The lines of errors -/

theorem exists_line_of_mem_errorsIn {k : Classifier} {isOpen : Bool} {max n : Nat}
    {ls : List String} {e : ErrorLine}
    (he : e ∈ k.errorsIn (ordinaryLines isOpen (cutLines max (ls.zipIdx n)))) :
    ∃ before line after text, ls = before ++ line :: after ∧
      (k.afterLines (before.map (cutLine max))).error? (cutLine max line) = some text ∧
      e = .ofLine (n + before.length) text := by
  induction ls generalizing k isOpen n with
  | nil => exact absurd he List.not_mem_nil
  | cons line ls ih =>
    have hcut : cutLines max ((line :: ls).zipIdx n) =
        (cutLine max line, n) :: cutLines max (ls.zipIdx (n + 1)) := rfl
    -- the lines behind this one are read by the classifier behind it, marker or not
    have hlater : ∀ isOpen, e ∈ (k.after (cutLine max line)).errorsIn
          (ordinaryLines isOpen (cutLines max (ls.zipIdx (n + 1)))) →
        ∃ before line' after text, line :: ls = before ++ line' :: after ∧
          (k.afterLines (before.map (cutLine max))).error? (cutLine max line') = some text ∧
          e = .ofLine (n + before.length) text := by
      intro isOpen hmem
      obtain ⟨before, line', after, text, rfl, herror, rfl⟩ := ih hmem
      refine ⟨line :: before, line', after, text, rfl, herror, ?_⟩
      rw [List.length_cons, Nat.add_assoc, Nat.add_comm 1]
    rw [hcut, ordinaryLines] at he
    split at he
    case h_1 m hm =>
      rw [← Classifier.after_of_marker hm k] at he
      exact hlater _ he
    case h_2 =>
      rw [Classifier.errorsIn] at he
      rcases List.mem_append.1 he with hhere | hmem
      · rw [Option.mem_toList] at hhere
        obtain ⟨text, herror, rfl⟩ := Option.map_eq_some_iff.1 hhere
        exact ⟨[], line, ls, text, rfl, herror, rfl⟩
      · exact hlater _ hmem

/-! ### Runs over a source -/

namespace Run

/-- A run that is not cancelled is one over the lines of the whole content. -/
theorem finish_of_overSource {r : Run} {cancelled : Bool} {s : Source} {p : ParsedLog}
    (hp : r.overSource cancelled s = .ok p) :
    (r.lines (textLinesOf s.delivered.1)).finish (linesOf s.delivered.1).length = .ok p := by
  have hlaw := overDeliveries_allOrNothing r 0 cancelled (s.deliveries cancelled)
  rw [Source.item_deliveries, overItems_itemsOf] at hlaw
  rcases hlaw with hcancelled | hcontent
  · cases hcancelled.symm.trans hp
  · rw [overSource, hcontent] at hp
    cases hfailure : s.delivered.2 with
    | none => rwa [hfailure] at hp
    | some e =>
      rw [hfailure] at hp
      cases hp

end Run

/-! ### Errors of a log -/

/-- The error is a line of the log with its number: cut to the limit, then what is left of it for
the decision, which is an error, and then without white space at its end. It fits into the limit
unless the line carries performance data. -/
def ErrorLine.FoundIn (e : ErrorLine) (max : Nat) (ls : List String) : Prop :=
  ∃ before line after text, ls = before ++ line :: after ∧
    Classifier.Classified (before.map (cutLine max)) (cutLine max line) text ∧
    isErrorLine text = true ∧
    e = ⟨before.length + 1, String.ofList (Text.trimEnd text.toList)⟩ ∧
    ((∀ m ∈ performanceMarks, ¬ m.toList <:+: line.toList) → e.text.utf8ByteSize ≤ max)

theorem trimEnd_prefix (cs : List Char) : Text.trimEnd cs <+: cs := by
  have hsuffix := List.dropWhile_suffix (l := cs.reverse) Text.isBlank
  rwa [← List.reverse_prefix, List.reverse_reverse] at hsuffix

/-- Each error of the steps is found in the lines. -/
theorem Run.foundIn_of_mem_errors {settings : Settings} {ls : List String} {e : ErrorLine}
    (he : e ∈ (stepLog settings ls).errors) : e.FoundIn settings.maxLineLength ls := by
  rw [stepLog, StepLog.errors_lines] at he
  obtain ⟨before, line, after, text, rfl, herror, rfl⟩ :=
    exists_line_of_mem_errorsIn (List.mem_of_mem_take he)
  obtain ⟨rfl, htext⟩ := Classifier.error?_eq_some_iff.1 herror
  have hclassified := Classifier.classified_normalize (before.map (cutLine settings.maxLineLength))
    (cutLine settings.maxLineLength line)
  refine ⟨before, line, after, _, rfl, hclassified, htext, ?_, fun hmarks => ?_⟩
  · rw [ErrorLine.ofLine, Nat.add_comm]
  · have hcarries := carriesPerformance_eq_false_iff.2 hmarks
    have htrimmed := trimEnd_prefix
      ((Classifier.start.afterLines (before.map (cutLine settings.maxLineLength))).normalize
        (cutLine settings.maxLineLength line)).toList
    rw [ErrorLine.ofLine]
    refine Nat.le_trans (utf8ByteSize_mono ?_) (utf8ByteSize_cutLine_le hcarries)
    rw [String.toList_ofList]
    exact htrimmed.isInfix.trans hclassified.suffix.isInfix

theorem Run.errors_stepLog (settings : Settings) (ls : List String) (n : Nat) :
    let data := ((stepLog settings ls).finish n).data
    data.errors.length ≤ settings.maxErrorLines ∧ data.steps.flatMap Step.errors = data.errors ∧
      ∀ e ∈ data.errors, e.FoundIn settings.maxLineLength ls := by
  intro data
  have herrors : data.errors = (stepLog settings ls).errors := StepLog.errors_finish _ n
  refine ⟨?_, ?_, fun e he => foundIn_of_mem_errors (herrors ▸ he)⟩
  · rw [herrors, stepLog, StepLog.errors_lines]
    exact List.length_take_le _ _
  · rw [herrors]
    exact StepLog.flatMap_errors_finish _ _ n

/-- **Errors are bounded and come from the log.** The run over a source that ends normally makes a
summary of the steps if one is asked for. The summary of every run has at most the number of errors
that the settings allow, all of them in its steps, and each error is a line of the log with its
number: cut to the limit, without the prefix of the worker where the log is known to carry it, an
error as it then stands, and without white space at its end. -/
theorem Run.errors_foundIn (logUrl : String) (kinds : List BuilderKind) (settings : Settings)
    (s : Source) :
    (s.delivered.2 = none → .steps ∈ kinds → ∃ p summary,
      (ofKinds logUrl kinds settings).overSource false s.calm = .ok p ∧ p.steps? = some summary) ∧
    ∀ (cancelled : Bool) (p : ParsedLog) (summary : StepSummary),
      (ofKinds logUrl kinds settings).overSource cancelled s = .ok p → p.steps? = some summary →
        summary.data.errors.length ≤ settings.maxErrorLines ∧
        summary.data.steps.flatMap Step.errors = summary.data.errors ∧
        ∀ e ∈ summary.data.errors,
          e.FoundIn settings.maxLineLength ((linesOf s.delivered.1).map textOf) := by
  have hlength : ((linesOf s.delivered.1).map textOf).length = (linesOf s.delivered.1).length :=
    List.length_map textOf
  refine ⟨fun hends hsteps => ?_, fun cancelled p summary hp hsummary => ?_⟩
  · have hrun := overSource_calm (ofKinds logUrl kinds settings) s
    rw [hends, overContent, textLinesOf, ← hlength, finish_ofKinds] at hrun
    have hsummary := steps?_finish_ofKinds logUrl kinds settings _ (finish_ofKinds logUrl kinds
      settings ((linesOf s.delivered.1).map textOf))
    rw [if_pos hsteps] at hsummary
    exact ⟨_, _, hrun, hsummary⟩
  · have hfinish := finish_of_overSource hp
    rw [textLinesOf, ← hlength] at hfinish
    rw [steps?_finish_ofKinds _ _ _ _ hfinish] at hsummary
    split at hsummary
    case isFalse => exact nomatch hsummary
    case isTrue =>
      obtain rfl := Option.some.inj hsummary
      exact errors_stepLog settings _ _

/-- The second and the third line lose the prefix of the worker; the third one is cut, and the
fourth one is more than are kept. -/
theorem Run.errors_foundIn_worker :
    let text := "[taskcluster 1] a\n[vcs 2] abort: b \n[vcs 3] TEST-TIMEOUT | cut\nabort: c"
    let log := text.toUTF8.toList
    let settings := { Settings.default with maxErrorLines := 2, maxLineLength := 22 }
    ∃ p summary,
      (ofKinds "log" [.jobInfo, .steps] settings).overSource false (.ofBytes log) = .ok p ∧
      p.steps? = some summary ∧
      summary.data.errors = [⟨2, "abort: b"⟩, ⟨3, "TEST-TIMEOUT |"⟩] ∧
      ∀ e ∈ summary.data.errors, e.FoundIn 22 ((linesOf log).map textOf) := by
  intro text log settings
  have herrors : ((ofKinds "log" [.jobInfo, .steps] settings).overSource false
      (.ofBytes log)).toOption.bind (fun p => p.steps?.map (·.data.errors)) =
        some [⟨2, "abort: b"⟩, ⟨3, "TEST-TIMEOUT |"⟩] := by
    decide +kernel
  obtain ⟨hmakes, hfound⟩ := errors_foundIn "log" [.jobInfo, .steps] settings (.ofBytes log)
  obtain ⟨p, summary, hp, hsummary⟩ := hmakes (by simp) (by simp)
  rw [Source.calm_ofBytes] at hp
  rw [hp, Except.toOption, Option.bind_some, hsummary] at herrors
  obtain ⟨-, -, hall⟩ := hfound false p summary hp hsummary
  rw [Source.delivered_ofBytes] at hall
  exact ⟨p, summary, hp, hsummary, Option.some.inj herrors, hall⟩

end JobLog
