import JobLog.Proofs.Sample.Marker
import JobLog.Proofs.Step.Growth

/-!
# The steps of sample logs

Read line by line, the log of a script makes one step for each of the script: between the markers
all lines are ordinary, and behind a finish marker the next start marker follows.

* `errorsAmong` are the errors among lines. `StepLog.lines_within` reads the ordinary lines of a
  step, and `StepLog.lines_placed` a step with its markers.
* `Placed.step` is the step that is made, `stepsOf` are all of them with the errors that are kept.
* `StepLog.lines_place` is the result for all steps.
-/

namespace JobLog

/-- The errors among lines with their numbers. -/
def errorsAmong (ls : List (String × Nat)) : List ErrorLine :=
  (ls.filter fun x => isErrorLine x.1).map fun x => .ofLine x.2 x.1

namespace Step

/-- The step with more errors. -/
def addErrors (s : Step) (es : List ErrorLine) : Step := es.foldl addError s

theorem addErrors_eq {s : Step} (h : s.errorCount = s.errors.length) (es : List ErrorLine) :
    s.addErrors es =
      { s with errors := s.errors ++ es, errorCount := (s.errors ++ es).length } := by
  induction es generalizing s with
  | nil => simp [addErrors, ← h]
  | cons e es ih =>
    have hcount : (s.addError e).errorCount = (s.addError e).errors.length := by simp [addError]
    rw [addErrors, List.foldl_cons, ← addErrors, ih hcount]
    simp [addError]

end Step

/-! ### Ordinary lines -/

/-- The line starts neither like a marker of a step nor with a bracket. -/
def IsOrdinary (text : String) : Prop := ∀ c ∈ text.toList.head?, c ≠ '=' ∧ c ≠ '['

namespace IsOrdinary

variable {text : String} (h : IsOrdinary text)
include h

theorem markerAt?_eq (isOpen : Bool) : markerAt? isOpen text = none := by
  rw [Option.eq_none_iff_forall_ne_some]
  intro m hm
  obtain ⟨t, rfl⟩ := Marker.exists_of_read? hm
  refine (h '=' ?_).1 rfl
  rw [MarkerText.toList_line]
  rfl

theorem after_start : Classifier.start.after text = .start := by
  have hmarker : Classifier.marker.isPrefixOf text.toList = false := by
    rw [← Bool.not_eq_true, List.isPrefixOf_iff_prefix]
    rintro ⟨r, hr⟩
    refine (h '[' ?_).2 rfl
    rw [← hr]
    rfl
  rw [Classifier.after, hmarker]
  rfl

theorem error?_start :
    Classifier.start.error? text = if isErrorLine text = true then some text else none := by
  have hnormalize : Classifier.start.normalize text = text := by
    rw [Classifier.normalize, h.after_start]
    rfl
  rw [Classifier.error?, hnormalize]

end IsOrdinary

/-! ### Lines of one step -/

namespace StepLog

/-- A log outside of all steps. -/
def between (cap : Nat) (closed : List Step) (errors : List ErrorLine) (truncated : Bool)
    (lastLine : Nat) : StepLog :=
  ⟨.outside, .start, closed, none, errors, truncated, cap, lastLine⟩

/-- A log within a step. -/
def within (cap : Nat) (closed : List Step) (errors : List ErrorLine) (truncated : Bool)
    (s : Step) (lastLine : Nat) : StepLog :=
  ⟨.inside, .start, closed, some s, errors, truncated, cap, lastLine⟩

section

variable (cap : Nat) (closed : List Step) (errors : List ErrorLine) (truncated : Bool) (s : Step)
  (n : Nat)

theorem line_within_quiet {text : String} (h : IsOrdinary text) (herror : isErrorLine text = false)
    (k : Nat) :
    (within cap closed errors truncated s n).line text k =
      within cap closed errors truncated s k := by
  have hnone : Classifier.start.error? text = none := by simp [h.error?_start, herror]
  have hstep : LineStep (within cap closed errors truncated s n) text k _ :=
    .quiet (h.markerAt?_eq _) hnone
  rw [hstep.line_eq (by simp [within])]
  simp only [within, h.after_start]

theorem line_within_dropped {text : String} (h : IsOrdinary text) (herror : isErrorLine text = true)
    (hcap : cap ≤ errors.length) (k : Nat) :
    (within cap closed errors truncated s n).line text k =
      within cap closed errors true s k := by
  have hsome : Classifier.start.error? text = some text := by simp [h.error?_start, herror]
  have hstep : LineStep (within cap closed errors truncated s n) text k _ :=
    .dropped text (h.markerAt?_eq _) hsome hcap
  rw [hstep.line_eq (by simp [within])]
  simp only [within, h.after_start]

theorem line_within_kept {text : String} (h : IsOrdinary text) (herror : isErrorLine text = true)
    (hcap : errors.length < cap) (k : Nat) :
    (within cap closed errors truncated s n).line text k =
      within cap closed (errors ++ [.ofLine k text]) truncated (s.addError (.ofLine k text)) k := by
  have hsome : Classifier.start.error? text = some text := by simp [h.error?_start, herror]
  have hstep : LineStep (within cap closed errors truncated s n) text k _ :=
    .kept text (h.markerAt?_eq _) hsome hcap
  rw [hstep.line_eq (by simp [within])]
  simp only [within, h.after_start, addError, Option.getD_some]

theorem line_between (step elapsed code secs k : Nat) :
    (between cap closed errors truncated n).line
        (Sample.markerLine .started step code elapsed secs) k =
      within cap closed errors truncated
        (.begin (String.ofList (Sample.stepName step)) closed.length k
          (some (Sample.pointAt secs))) k := by
  have hstep : LineStep (between cap closed errors truncated n)
      (Sample.markerLine .started step code elapsed secs) k _ :=
    .opens _ rfl (Sample.read?_marker .started step code elapsed secs)
  rw [hstep.line_eq (by simp [between])]
  simp [between, within, enter, closedAt, Marker.timestamp?, Sample.ofChars?_timestamp]

theorem line_within_finished (step elapsed code secs k : Nat) (hcode : code < Text.wordBound) :
    (within cap closed errors truncated s n).line
        (Sample.markerLine .finished step code elapsed secs) k =
      between cap (closed ++ [s.finish k (some (Sample.pointAt secs)) (.ofCode code)]) errors
        truncated k := by
  have hstep : LineStep (within cap closed errors truncated s n)
      (Sample.markerLine .finished step code elapsed secs) k _ :=
    .closes _ rfl (Sample.read?_marker .finished step code elapsed secs)
  rw [hstep.line_eq (by simp [within])]
  simp [between, within, leave, Marker.timestamp?, Sample.ofChars?_timestamp,
    Sample.result_marker step hcode secs]

/-- Ordinary lines add their errors to the open step, up to the cap. -/
theorem lines_within {ls : List (String × Nat)} (hls : ∀ x ∈ ls, IsOrdinary x.1) :
    let found := errorsAmong ls
    let kept := found.take (cap - errors.length)
    ∃ m, (within cap closed errors truncated s n).lines ls =
      within cap closed (errors ++ kept)
        (truncated || decide (cap - errors.length < found.length)) (s.addErrors kept) m := by
  induction ls generalizing errors truncated s n with
  | nil => exact ⟨n, by simp [errorsAmong, Step.addErrors]⟩
  | cons x ls ih =>
    obtain ⟨hx, hls⟩ := List.forall_mem_cons.1 hls
    rw [lines_cons]
    cases herror : isErrorLine x.1 with
    | false =>
      have hfound : errorsAmong (x :: ls) = errorsAmong ls := by simp [errorsAmong, herror]
      rw [line_within_quiet cap closed errors truncated s n hx herror, hfound]
      exact ih errors truncated s x.2 hls
    | true =>
      have hfound : errorsAmong (x :: ls) = .ofLine x.2 x.1 :: errorsAmong ls := by
        simp [errorsAmong, herror]
      rw [hfound]
      by_cases hcap : cap ≤ errors.length
      · rw [line_within_dropped cap closed errors truncated s n hx herror hcap]
        obtain ⟨m, hm⟩ := ih errors true s x.2 hls
        have hroom : cap - errors.length = 0 := Nat.sub_eq_zero_of_le hcap
        exact ⟨m, by simpa [hroom] using hm⟩
      · rw [line_within_kept cap closed errors truncated s n hx herror (Nat.lt_of_not_le hcap)]
        obtain ⟨m, hm⟩ := ih (errors ++ [.ofLine x.2 x.1]) truncated
          (s.addError (.ofLine x.2 x.1)) x.2 hls
        obtain ⟨room, hroom⟩ : ∃ room, cap - errors.length = room + 1 :=
          ⟨cap - errors.length - 1, by omega⟩
        have hroom' : cap - (errors ++ [ErrorLine.ofLine x.2 x.1]).length = room := by
          rw [List.length_append, List.length_singleton]
          omega
        rw [hroom'] at hm
        exact ⟨m, by simpa [hroom, Step.addErrors] using hm⟩

end
end StepLog

namespace Sample

/-! ### The steps that are made -/

theorem length_linesFrom (secs : Nat) (body : Body) :
    (body.linesFrom secs).length = body.length := by
  induction body generalizing secs with
  | nil => rfl
  | cons x body ih => rw [Body.linesFrom, List.length_cons, List.length_cons, ih]

theorem isOrdinary_text (secs : Nat) (l : BodyLine) : IsOrdinary (l.text secs) := by
  rw [IsOrdinary, BodyLine.text, String.toList_ofList]
  exact l.head?_chars secs

theorem exists_of_mem_linesFrom {secs : Nat} {body : Body} {cs : List Char}
    (h : cs ∈ body.linesFrom secs) : ∃ secs' l, cs = BodyLine.chars secs' l := by
  induction body generalizing secs with
  | nil => exact absurd h List.not_mem_nil
  | cons x body ih =>
    rw [Body.linesFrom, List.mem_cons] at h
    exact h.elim (fun heq => ⟨_, _, heq⟩) ih

theorem seconds_le (body : Body) : body.seconds ≤ body.length := by
  induction body with
  | nil => exact Nat.le_refl 0
  | cons x body ih =>
    rw [Body.seconds, List.length_cons]
    omega

theorem elapsed_le (t : StepScript) : t.elapsed ≤ 200 := by
  have hseconds := seconds_le t.body
  have hlength := t.length_bounds.2
  rw [StepScript.elapsed]
  omega

namespace Placed

variable (q : Placed)

/-- The lines of the body with their numbers. -/
def bodyLines : List (String × Nat) :=
  ((q.script.body.linesFrom q.started).map String.ofList).zipIdx (q.firstLine + 1)

/-- The errors of the step. -/
def errors : List ErrorLine := errorsAmong q.bodyLines

/-- The step that is made, where so many errors are kept. -/
def step (order : Nat) (kept : List ErrorLine) : Step :=
  ⟨String.ofList (stepName q.number), order, q.firstLine, q.lastLine, some (pointAt q.started),
    some (pointAt q.finished), Double.ofInt? (secondsOf q.started q.script.elapsed),
    .ofCode q.script.code, kept, kept.length⟩

theorem finish_addErrors (order : Nat) (kept : List ErrorLine) :
    ((Step.begin (String.ofList (stepName q.number)) order q.firstLine
        (some (pointAt q.started))).addErrors kept).finish q.lastLine (some (pointAt q.finished))
        (.ofCode q.script.code) = q.step order kept := by
  have helapsed := elapsed_le q.script
  rw [Step.addErrors_eq rfl, step, ← duration?_pointAt (by omega)]
  rfl

theorem zipIdx_lines :
    (q.lines.map String.ofList).zipIdx q.firstLine =
      (markerLine .started q.number 0 0 q.started, q.firstLine) :: q.bodyLines ++
        [(markerLine .finished q.number q.script.code q.script.elapsed q.finished,
          q.lastLine)] := by
  have hlast : q.firstLine + (q.script.body.linesFrom q.started).length + 1 = q.lastLine := by
    rw [length_linesFrom, lastLine]
  rw [lines, bodyLines, List.map_append, List.zipIdx_append, List.map_cons, List.zipIdx_cons,
    List.length_cons, List.length_map, ← Nat.add_assoc, hlast]
  rfl

end Placed
end Sample

namespace StepLog

open Sample (Placed)

/-- **A step of a script makes a step.** -/
theorem lines_placed (cap : Nat) (closed : List Step) (errors : List ErrorLine) (truncated : Bool)
    (n : Nat) (q : Placed) :
    let kept := q.errors.take (cap - errors.length)
    (between cap closed errors truncated n).lines
        ((q.lines.map String.ofList).zipIdx q.firstLine) =
      between cap (closed ++ [q.step closed.length kept]) (errors ++ kept)
        (truncated || decide (cap - errors.length < q.errors.length)) q.lastLine := by
  intro kept
  have hordinary : ∀ x ∈ q.bodyLines, IsOrdinary x.1 := by
    intro x hx
    obtain ⟨cs, hcs, heq⟩ := List.mem_map.1 (List.fst_mem_of_mem_zipIdx hx)
    obtain ⟨secs, l, rfl⟩ := Sample.exists_of_mem_linesFrom hcs
    exact heq ▸ Sample.isOrdinary_text secs l
  obtain ⟨m, hbody⟩ := lines_within cap closed errors truncated
    (.begin (String.ofList (Sample.stepName q.number)) closed.length q.firstLine
      (some (Sample.pointAt q.started))) q.firstLine hordinary
  have hcode : q.script.code.val < Text.wordBound := Nat.lt_trans q.script.code.isLt (by decide)
  rw [q.zipIdx_lines, List.cons_append, lines_cons, line_between, lines_append, hbody, lines_cons,
    lines_nil, line_within_finished cap _ _ _ _ _ _ _ _ _ _ hcode, ← Placed.errors,
    q.finish_addErrors]

end StepLog

namespace Sample

/-! ### All steps -/

/-- The steps that are made from an order on, where there is room for so many errors. -/
def stepsOf (order room : Nat) : List Placed → List Step
  | [] => []
  | q :: qs => q.step order (q.errors.take room) :: stepsOf (order + 1) (room - q.errors.length) qs

/-- The lines of steps with their numbers. -/
def numberedLines (qs : List Placed) : List (String × Nat) :=
  qs.flatMap fun q => (q.lines.map String.ofList).zipIdx q.firstLine

end Sample

namespace StepLog

open Sample (Placed stepsOf numberedLines)

/-- **The steps of a script make steps**, one behind the other. -/
theorem lines_numberedLines (cap : Nat) (closed : List Step) (errors : List ErrorLine)
    (truncated : Bool) (n : Nat) (qs : List Placed) :
    let found := qs.flatMap Placed.errors
    let room := cap - errors.length
    ∃ m, (between cap closed errors truncated n).lines (numberedLines qs) =
      between cap (closed ++ stepsOf closed.length room qs) (errors ++ found.take room)
        (truncated || decide (room < found.length)) m := by
  induction qs generalizing closed errors truncated n with
  | nil => exact ⟨n, by simp [numberedLines, stepsOf]⟩
  | cons q qs ih =>
    have hroom : cap - (errors ++ q.errors.take (cap - errors.length)).length =
        cap - errors.length - q.errors.length := by
      rw [List.length_append, List.length_take]
      omega
    obtain ⟨m, hm⟩ := ih
      (closed ++ [q.step closed.length (q.errors.take (cap - errors.length))])
      (errors ++ q.errors.take (cap - errors.length))
      (truncated || decide (cap - errors.length < q.errors.length)) q.lastLine
    refine ⟨m, ?_⟩
    rw [numberedLines, List.flatMap_cons, lines_append, lines_placed, ← numberedLines, hm, hroom,
      stepsOf, List.length_append, List.length_singleton, List.flatMap_cons, List.take_append]
    have htruncated : (decide (cap - errors.length < q.errors.length) ||
        decide (cap - errors.length - q.errors.length < (qs.flatMap Placed.errors).length)) =
          decide (cap - errors.length < (q.errors ++ qs.flatMap Placed.errors).length) := by
      rw [Bool.eq_iff_iff]
      simp only [Bool.or_eq_true, decide_eq_true_eq, List.length_append]
      omega
    rw [Bool.or_assoc, htruncated, List.append_assoc, List.append_assoc]
    rfl

end StepLog
end JobLog
