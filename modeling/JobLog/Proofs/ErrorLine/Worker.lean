import JobLog.Classifier
import JobLog.Proofs.Text.Pattern
import Mathlib.Data.List.TakeWhile

/-!
# The prefix of the worker

A classifier remembers one thing, that a line of a Taskcluster worker was seen. From this line on it
removes one prefix of the worker in front of each line.

* `Classifier.WorkerName` tells which names in brackets are such a prefix, without reading the line.
* `Classifier.taskcluster_afterLines_iff` says what is remembered behind several lines.
* `Classifier.normalize_of_prefixed` and `Classifier.normalize_of_not_prefixed` say what is removed.
* `Classifier.error?_of_history` is the result for a line and all lines before it.
-/

namespace JobLog

/-- The error that a line reports as it stands. -/
def plainError? (line : String) : Option String := if isErrorLine line then some line else none

namespace Classifier

/-! ### Histories -/

/-- The classifier behind several lines. -/
def afterLines (k : Classifier) (lines : List String) : Classifier := lines.foldl after k

/-- What a classifier reports of several lines, one after the other. -/
def results (k : Classifier) : List String → List (Option String)
  | [] => []
  | line :: lines => k.error? line :: (k.after line).results lines

theorem getElem?_results (k : Classifier) (before : List String) (line : String)
    (more : List String) :
    (k.results (before ++ line :: more))[before.length]? =
      some ((k.afterLines before).error? line) := by
  induction before generalizing k with
  | nil => rfl
  | cons x before ih => exact ih (k.after x)

/-- The line starts as the first line of a worker does. -/
def Introduces (line : String) : Prop := marker <+: line.toList

theorem taskcluster_after_iff (k : Classifier) (line : String) :
    (k.after line).taskcluster = true ↔ k.taskcluster = true ∨ Introduces line := by
  rw [after, Bool.or_eq_true, List.isPrefixOf_iff_prefix, Introduces]

/-- What was seen is remembered. -/
theorem taskcluster_afterLines_iff (k : Classifier) (lines : List String) :
    (k.afterLines lines).taskcluster = true ↔
      k.taskcluster = true ∨ ∃ x ∈ lines, Introduces x := by
  induction lines generalizing k with
  | nil => simp [afterLines]
  | cons x lines ih =>
    have hcons : k.afterLines (x :: lines) = (k.after x).afterLines lines := rfl
    simp only [hcons, ih, taskcluster_after_iff, List.mem_cons, exists_eq_or_imp, or_assoc]

/-! ### The prefix -/

/-- A name that stands in brackets in front of the lines of a worker. It does not mark an error of
the worker itself. -/
structure WorkerName (name : String) : Prop where
  ne_empty : name ≠ ""
  no_bracket : ']' ∉ name.toList
  ne_taskcluster : name ≠ "taskcluster"
  no_error : ¬ ":error".toList <:+ name.toList
  no_exception : ¬ ":exception".toList <:+ name.toList

/-- A name in brackets is read in one way. -/
theorem workerPrefix?_eq_some_iff {s name rest : List Char} :
    workerPrefix? s = some (name, rest) ↔
      name ≠ [] ∧ ']' ∉ name ∧ s = '[' :: name ++ ']' :: ' ' :: rest := by
  constructor
  · intro h
    unfold workerPrefix? at h
    split at h
    case h_2 => exact nomatch h
    case h_1 s =>
      split at h
      case h_2 => exact nomatch h
      case h_1 c run behind htake hdrop =>
        cases h
        refine ⟨nofun, fun hmem => ?_, ?_⟩
        · rw [← htake] at hmem
          simpa using List.mem_takeWhile_imp hmem
        · rw [List.cons_append, ← htake, ← hdrop, List.takeWhile_append_dropWhile]
  · rintro ⟨hne, hbracket, rfl⟩
    have hname : ∀ c ∈ name, (c != ']') = true := fun c hc =>
      bne_iff_ne.2 fun heq => hbracket (heq ▸ hc)
    have hrest : ∀ c ∈ (']' :: ' ' :: rest).head?, (c != ']') = false := by simp
    obtain ⟨c, run, rfl⟩ := List.exists_cons_of_ne_nil hne
    have htake := Text.takeWhile_run_append hname hrest
    have hdrop := Text.dropWhile_run_append hname hrest
    simp only [workerPrefix?, List.cons_append] at htake hdrop ⊢
    simp only [htake, hdrop]

theorem reportsError_iff {name : List Char} :
    reportsError name = true ↔
      (name = "taskcluster".toList ∨ ":error".toList <:+ name) ∨ ":exception".toList <:+ name := by
  simp only [reportsError, Bool.or_eq_true, beq_iff_eq, List.isSuffixOf_iff_suffix]

theorem workerName_iff {name : String} :
    WorkerName name ↔
      name.toList ≠ [] ∧ ']' ∉ name.toList ∧ reportsError name.toList ≠ true := by
  have hempty : name ≠ "" ↔ name.toList ≠ [] := String.toList_eq_nil_iff.not.symm
  have htaskcluster : name ≠ "taskcluster" ↔ name.toList ≠ "taskcluster".toList :=
    String.toList_inj.not.symm
  rw [ne_eq (reportsError _), reportsError_iff, not_or, not_or, ← hempty, ← ne_eq, ← htaskcluster]
  exact ⟨fun ⟨h₁, h₂, h₃, h₄, h₅⟩ => ⟨h₁, h₂, ⟨h₃, h₄⟩, h₅⟩,
    fun ⟨h₁, h₂, ⟨h₃, h₄⟩, h₅⟩ => ⟨h₁, h₂, h₃, h₄, h₅⟩⟩

/-- The line is the payload behind the prefix of a worker. -/
def Prefixed (line payload : String) : Prop :=
  ∃ name, WorkerName name ∧ line = "[" ++ name ++ "] " ++ payload

theorem prefixed_iff {line payload : String} :
    Prefixed line payload ↔
      ∃ name, workerPrefix? line.toList = some (name, payload.toList) ∧
        reportsError name ≠ true := by
  constructor
  · rintro ⟨name, hname, rfl⟩
    obtain ⟨hne, hbracket, hreports⟩ := workerName_iff.1 hname
    exact ⟨name.toList, workerPrefix?_eq_some_iff.2 ⟨hne, hbracket, by simp⟩, hreports⟩
  · rintro ⟨name, hread, hreports⟩
    obtain ⟨hne, hbracket, hline⟩ := workerPrefix?_eq_some_iff.1 hread
    refine ⟨String.ofList name, workerName_iff.2 ?_, String.toList_inj.1 (by simp [hline])⟩
    rw [String.toList_ofList]
    exact ⟨hne, hbracket, hreports⟩

theorem withoutWorker_of_prefixed {line payload : String} (h : Prefixed line payload) :
    withoutWorker line.toList = payload.toList := by
  obtain ⟨name, hread, hreports⟩ := prefixed_iff.1 h
  rw [withoutWorker, hread]
  exact if_neg hreports

theorem withoutWorker_of_not_prefixed {line : String} (h : ∀ payload, ¬ Prefixed line payload) :
    withoutWorker line.toList = line.toList := by
  unfold withoutWorker
  split
  case h_2 => rfl
  case h_1 name rest hread =>
    by_cases hreports : reportsError name = true
    · exact if_pos hreports
    · exact absurd (prefixed_iff.2 ⟨name, by rw [hread, String.toList_ofList], hreports⟩)
        (h (String.ofList rest))

/-! ### Lines in their history -/

section

variable {k : Classifier} {line payload : String}

theorem normalize_of_not_taskcluster (h : (k.after line).taskcluster ≠ true) :
    k.normalize line = line := if_neg h

theorem normalize_of_prefixed (h : (k.after line).taskcluster = true)
    (hline : Prefixed line payload) : k.normalize line = payload := by
  rw [normalize, if_pos h, withoutWorker_of_prefixed hline, String.ofList_toList]

theorem normalize_of_not_prefixed (h : (k.after line).taskcluster = true)
    (hline : ∀ payload, ¬ Prefixed line payload) : k.normalize line = line := by
  rw [normalize, if_pos h, withoutWorker_of_not_prefixed hline, String.ofList_toList]

theorem error?_of_normalize (h : k.normalize line = payload) :
    k.error? line = plainError? payload := by
  rw [error?, h, plainError?]

end

/-- **A line in its history.** Whatever lines follow, a classifier reports of a line what its
context says, and it has the context of a worker from the first line on that starts like one, this
line included. Without the context the line is classified as it stands. With it one prefix is
removed, whatever the payload starts with, and the payload is classified as it stands; a line
without a prefix is left as it is. -/
theorem error?_of_history (before : List String) (line : String) (more : List String) :
    let k := start.afterLines before
    let introduced := ∃ x ∈ before ++ [line], Introduces x
    (start.results (before ++ line :: more))[before.length]? = some (k.error? line) ∧
      ((k.after line).taskcluster = true ↔ introduced) ∧
      (¬ introduced → k.error? line = plainError? line) ∧
      (introduced → ∀ payload, Prefixed line payload →
        k.normalize line = payload ∧ k.error? line = plainError? payload) ∧
      (introduced → (∀ payload, ¬ Prefixed line payload) → k.error? line = plainError? line) := by
  intro k introduced
  have hcontext : (k.after line).taskcluster = true ↔ introduced := by
    have happend : k.after line = start.afterLines (before ++ [line]) := by
      simp [k, afterLines]
    rw [happend, taskcluster_afterLines_iff]
    simp [start, introduced]
  refine ⟨getElem?_results start before line more, hcontext, fun h => ?_, fun h payload hline => ?_,
    fun h hline => ?_⟩
  · exact error?_of_normalize (normalize_of_not_taskcluster (hcontext.not.2 h))
  · have hnormalize := normalize_of_prefixed (hcontext.2 h) hline
    exact ⟨hnormalize, error?_of_normalize hnormalize⟩
  · exact error?_of_normalize (normalize_of_not_prefixed (hcontext.2 h) hline)

/-- A line loses one prefix of the worker, a second one stays, and so do errors of the worker. -/
example : start.results ["[vcs 1] abort: a", "[taskcluster 1] abort: b", "[vcs 2] abort: c",
      "[vcs 3] [vcs 3] abort: d", "[taskcluster:error] e"] =
    [none, some "abort: b", some "abort: c", none, some "[taskcluster:error] e"] := by
  decide +kernel

end Classifier
end JobLog
