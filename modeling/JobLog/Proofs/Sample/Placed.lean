import JobLog.Proofs.Sample.Steps
import Mathlib.Data.List.Flatten

/-!
# The lines of sample logs

The steps of a script stand one right behind the other, and what the lines report is told by the
script.

* `numberedLines_place` numbers the lines, and `length_textOf` counts them.
* `apart_place` and `isChain_place` are the places of the steps.
* `printable_textOf` and `length_le_of_mem_textOf`: all lines are read as they are.
* `details_textOf` and `payloads_textOf` are the job details and the payloads.
* `failures_sublist`: the failures are among the errors.
-/

namespace JobLog.Sample

open Performance (payloadsOf)

variable (number firstLine started : Nat) (script : List StepScript)

/-! ### Places -/

theorem length_place : (place number firstLine started script).length = script.length := by
  induction script generalizing number firstLine started with
  | nil => rfl
  | cons t ts ih => rw [place, List.length_cons, List.length_cons, ih]

theorem number_place :
    (place number firstLine started script).map Placed.number =
      List.range' number script.length := by
  induction script generalizing number firstLine started with
  | nil => rfl
  | cons t ts ih => rw [place, List.map_cons, ih, List.length_cons, List.range'_succ]

theorem firstLine_le_of_mem_place {q : Placed} (h : q ∈ place number firstLine started script) :
    firstLine ≤ q.firstLine := by
  induction script generalizing number firstLine started with
  | nil => exact absurd h List.not_mem_nil
  | cons t ts ih =>
    rcases List.mem_cons.1 h with rfl | h
    · exact Nat.le_refl _
    · exact Nat.le_trans (by omega) (ih _ _ _ h)

theorem apart_place :
    (place number firstLine started script).Pairwise fun q r => q.lastLine < r.firstLine := by
  induction script generalizing number firstLine started with
  | nil => exact .nil
  | cons t ts ih =>
    refine .cons (fun r hr => ?_) (ih _ _ _)
    have hle := firstLine_le_of_mem_place _ _ _ _ hr
    simp only [Placed.lastLine]
    omega

/-- Each step starts on the line behind the one before. -/
theorem isChain_place :
    (place number firstLine started script).IsChain fun q r => r.firstLine = q.lastLine + 1 := by
  induction script generalizing number firstLine started with
  | nil => exact .nil
  | cons t ts ih =>
    cases ts with
    | nil => exact .singleton _
    | cons t' ts => exact .cons_cons rfl (ih _ _ _)

theorem length_lines (q : Placed) : q.lines.length = q.script.body.length + 2 := by
  rw [Placed.lines, List.length_append, List.length_cons, length_linesFrom]
  rfl

theorem numberedLines_place :
    numberedLines (place number firstLine started script) =
      (((place number firstLine started script).flatMap Placed.lines).map String.ofList).zipIdx
        firstLine := by
  induction script generalizing number firstLine started with
  | nil => rfl
  | cons t ts ih =>
    rw [place, numberedLines, List.flatMap_cons, ← numberedLines, ih, List.flatMap_cons,
      List.map_append, List.zipIdx_append, List.length_map, length_lines, Nat.add_assoc]

/-- The last line of the log ends the last step. -/
theorem length_lines_place :
    firstLine + ((place number firstLine started script).flatMap Placed.lines).length =
      (((place number firstLine started script).getLast?.map Placed.lastLine).map
        (· + 1)).getD firstLine := by
  induction script generalizing number firstLine started with
  | nil => rfl
  | cons t ts ih =>
    rw [place, List.flatMap_cons, List.length_append, length_lines, ← Nat.add_assoc,
      ← Nat.add_assoc, ih, List.getLast?_cons]
    generalize place (number + 1) (firstLine + t.body.length + 2) (started + t.elapsed) ts = qs
    cases qs.getLast? with
    | none => rfl
    | some q => rfl

theorem number_lt_of_mem_place {q : Placed} (h : q ∈ place number firstLine started script) :
    q.number < number + script.length := by
  have hmem : q.number ∈ (place number firstLine started script).map Placed.number :=
    List.mem_map_of_mem h
  rw [number_place, List.mem_range'_1] at hmem
  exact hmem.2

/-! ### Reading the lines -/

/-- Each line of a step is a line of its body or a marker. -/
theorem cases_of_mem_lines {q : Placed} {cs : List Char} (h : cs ∈ q.lines) :
    (∃ secs l, cs = BodyLine.chars secs l) ∨
      ∃ (kind : MarkerKind) (code elapsed secs : Nat), code < 2 ∧ elapsed ≤ 200 ∧
        cs = marker kind.word q.number code elapsed secs := by
  rw [Placed.lines, List.mem_append, List.mem_cons, List.mem_singleton] at h
  rcases h with (rfl | hbody) | rfl
  · exact .inr ⟨.started, 0, 0, q.started, by decide, by decide, rfl⟩
  · exact .inl (exists_of_mem_linesFrom hbody)
  · exact .inr ⟨.finished, q.script.code, q.script.elapsed, q.finished, q.script.code.isLt,
      elapsed_le q.script, rfl⟩

theorem printable_lines {q : Placed} {cs : List Char} (h : cs ∈ q.lines) : Text.Printable cs := by
  rcases cases_of_mem_lines h with ⟨secs, l, rfl⟩ | ⟨kind, code, elapsed, secs, -, -, rfl⟩
  · exact l.printable_chars secs
  · exact printable_marker kind q.number code elapsed secs

theorem length_le_of_mem_lines {q : Placed} (hnumber : q.number < Text.wordBound) {cs : List Char}
    (h : cs ∈ q.lines) : cs.length ≤ 500 := by
  have hsmall : ∀ k, k ≤ 200 → k < Text.wordBound := fun k hk => Nat.lt_of_le_of_lt hk (by decide)
  rcases cases_of_mem_lines h with
    ⟨secs, l, rfl⟩ | ⟨kind, code, elapsed, secs, hcode, helapsed, rfl⟩
  · exact l.length_chars_le secs
  · exact length_marker_le kind secs hnumber (hsmall code (by omega)) (hsmall elapsed helapsed)

/-! ### Details and payloads -/

/-- The details of a step. -/
def StepScript.details (t : StepScript) : List JobDetail := t.body.filterMap fun x => x.2.detail?

/-- The payloads of a step. -/
def StepScript.payloads (t : StepScript) : List Json := t.body.filterMap fun x => x.2.payload?

/-- What lines report is told by the lines of the body, if markers report nothing and each line of
the body what it was drawn for. -/
theorem flatMap_lines {α : Type} {report : List Char → List α} {drawn? : BodyLine → Option α}
    (hmarker : ∀ kind step code elapsed secs,
      report (marker (MarkerKind.word kind) step code elapsed secs) = [])
    (hbody : ∀ secs l, report (BodyLine.chars secs l) = (drawn? l).toList) (q : Placed) :
    q.lines.flatMap report = q.script.body.filterMap fun x => drawn? x.2 := by
  have hlines : ∀ (body : Body) secs, (body.linesFrom secs).flatMap report =
      body.filterMap fun x => drawn? x.2 := by
    intro body
    induction body with
    | nil => exact fun _ => rfl
    | cons x body ih =>
      intro secs
      rw [Body.linesFrom, List.flatMap_cons, hbody, ih, List.filterMap_cons]
      cases drawn? x.2 <;> rfl
  have hstart : report (marker "Started" q.number 0 0 q.started) = [] := hmarker .started ..
  have hend : report (marker "Finished" q.number q.script.code q.script.elapsed q.finished) = [] :=
    hmarker .finished ..
  rw [Placed.lines, List.cons_append, List.flatMap_cons, List.flatMap_append, hlines, hstart,
    List.flatMap_singleton, hend, List.nil_append, List.append_nil]

theorem flatMap_place {α : Type} (f : Placed → List α) (g : StepScript → List α)
    (h : ∀ q, f q = g q.script) :
    (place number firstLine started script).flatMap f = script.flatMap g := by
  induction script generalizing number firstLine started with
  | nil => rfl
  | cons t ts ih => rw [place, List.flatMap_cons, h, ih, List.flatMap_cons]

/-- The details of a log are those of the script. -/
theorem details_textOf :
    ((textOf script).flatMap fun cs => (JobDetail.ofLine? (String.ofList cs)).toList) =
      script.flatMap StepScript.details := by
  rw [textOf, List.flatMap_assoc]
  refine flatMap_place 0 1 3600 script _ _ fun q => ?_
  refine flatMap_lines (fun kind step code elapsed secs => ?_) (fun secs l => ?_) q
  · rw [ofLine?_marker]
    rfl
  · rw [BodyLine.ofLine?_text]

/-- The payloads of a log are those of the script. -/
theorem payloads_textOf :
    ((textOf script).flatMap fun cs => payloadsOf (String.ofList cs)) =
      script.flatMap StepScript.payloads := by
  rw [textOf, List.flatMap_assoc]
  refine flatMap_place 0 1 3600 script _ _ fun q => ?_
  refine flatMap_lines (fun kind step code elapsed secs => ?_) (fun secs l => ?_) q
  · exact payloadsOf_marker kind step code elapsed secs
  · exact l.payloadsOf_text secs

/-! ### Failures -/

/-- The failures among the lines of a body. -/
def Body.failuresFrom (number secs : Nat) : Body → List ErrorLine
  | [] => []
  | (later, l) :: rest =>
    (if l.isFailure then [.ofLine number (l.text (secs + later))] else []) ++
      failuresFrom (number + 1) (secs + later) rest

/-- The failures of a step. -/
def Placed.failures (q : Placed) : List ErrorLine :=
  q.script.body.failuresFrom (q.firstLine + 1) q.started

/-- The errors of a log. -/
def errorLines : List ErrorLine := (placed script).flatMap Placed.errors

/-- The failures of a log. -/
def failureLines : List ErrorLine := (placed script).flatMap Placed.failures

theorem errorsAmong_cons (x : String × Nat) (ls : List (String × Nat)) :
    errorsAmong (x :: ls) =
      (if isErrorLine x.1 then [.ofLine x.2 x.1] else []) ++ errorsAmong ls := by
  cases h : isErrorLine x.1 <;> simp [errorsAmong, h]

/-- **Failures are errors.** -/
theorem failures_sublist (q : Placed) : q.failures.Sublist q.errors := by
  have hbody : ∀ (body : Body) number secs, (body.failuresFrom number secs).Sublist
      (errorsAmong (((body.linesFrom secs).map String.ofList).zipIdx number)) := by
    intro body
    induction body with
    | nil => exact fun _ _ => .slnil
    | cons x body ih =>
      intro number secs
      rw [Body.failuresFrom, Body.linesFrom, List.map_cons, List.zipIdx_cons, errorsAmong_cons]
      refine List.Sublist.append ?_ (ih _ _)
      by_cases hfailure : x.2.isFailure = true
      · have herror := BodyLine.isErrorLine_text (secs + x.1) hfailure
        rw [if_pos hfailure, if_pos herror]
      · rw [if_neg hfailure]
        exact List.nil_sublist _
  exact hbody q.script.body (q.firstLine + 1) q.started

theorem failureLines_sublist : (failureLines script).Sublist (errorLines script) :=
  .flatMap_right _ fun q _ => failures_sublist q

/-- An error of a step stands within it. -/
theorem number_of_mem_errors {q : Placed} {e : ErrorLine} (h : e ∈ q.errors) :
    q.firstLine ≤ e.number ∧ e.number ≤ q.lastLine := by
  obtain ⟨x, hx, rfl⟩ := List.mem_map.1 h
  have hmem := (List.mem_filter.1 hx).1
  have hfirst := List.le_snd_of_mem_zipIdx hmem
  have hlast := List.snd_lt_add_of_mem_zipIdx hmem
  rw [List.length_map, length_linesFrom] at hlast
  simp only [ErrorLine.ofLine, Placed.lastLine]
  omega

end JobLog.Sample
