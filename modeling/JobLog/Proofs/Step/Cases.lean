import JobLog.Step.Log

/-!
# What a line does to the steps

`LineStep` lists the five things that a line can do to a log that has not ended, each with its
guard: it opens a step or closes it, or it is ordinary, and then it reports nothing, or an error
that is dropped, or an error that is kept. `line_step` is the inversion of `StepLog.line`; what
holds of the steps of every log is proved from it by cases.

* `markerAt?` is the marker that a line is, by whether a marked step is open.
* `Phased` ties the phase of a log to its open step; every line and the end keep it.
* `calls_of_ended` says that an ended log stays as it is.
-/

namespace JobLog

/-! ### Markers -/

/-- The marker that a line is: a finish marker where a marked step is open, else a start marker. -/
def markerAt? (isOpen : Bool) (text : String) : Option Marker :=
  Marker.read? (if isOpen then .finished else .started) text

namespace Marker

theorem name_ne_nil_of_named? {before s : List Char} {m : Marker} (h : named? before s = some m) :
    m.name ≠ [] := by
  fun_induction named? before s with
  | case1 | case2 => simp at h
  | case3 before c s _ code time htail =>
    cases h
    simp
  | case4 before c s _ _ ih => exact ih h

/-- The name of a marker is not empty. -/
theorem ofList_name_ne_empty {kind : MarkerKind} {line : String} {m : Marker}
    (h : read? kind line = some m) : String.ofList m.name ≠ "" := by
  obtain ⟨s, -, hs⟩ := Option.bind_eq_some_iff.1 h
  rw [← String.ofList_nil, ne_eq, String.ofList_inj]
  exact name_ne_nil_of_named? hs

end Marker

namespace StepLog

/-! ### The cases of a line -/

/-- A marked step is open. -/
def isOpen (l : StepLog) : Bool := l.phase = .inside

/-- What a line can do to a log, with the conditions under which it does it. -/
inductive LineStep (l : StepLog) (text : String) (n : Nat) : StepLog → Prop
  | opens (m : Marker) (hphase : l.phase = .outside) (hm : markerAt? l.isOpen text = some m) :
      LineStep l text n ({ l with lastLine := n }.enter m n)
  | closes (m : Marker) (hphase : l.phase = .inside) (hm : markerAt? l.isOpen text = some m) :
      LineStep l text n ({ l with lastLine := n }.leave m n)
  | quiet (hm : markerAt? l.isOpen text = none) (herror : l.classifier.error? text = none) :
      LineStep l text n { l with lastLine := n, classifier := l.classifier.after text }
  | dropped (e : String) (hm : markerAt? l.isOpen text = none)
      (herror : l.classifier.error? text = some e) (hcap : l.cap ≤ l.errors.length) :
      LineStep l text n
        { l with lastLine := n, classifier := l.classifier.after text, truncated := true }
  | kept (e : String) (hm : markerAt? l.isOpen text = none)
      (herror : l.classifier.error? text = some e) (hcap : l.errors.length < l.cap) :
      LineStep l text n
        ({ l with lastLine := n, classifier := l.classifier.after text }.addError (.ofLine n e))

theorem ordinary_step (l : StepLog) (text : String) (n : Nat)
    (hm : markerAt? l.isOpen text = none) :
    LineStep l text n ({ l with lastLine := n }.ordinary text n) := by
  unfold ordinary
  cases herror : l.classifier.error? text with
  | none => exact .quiet hm herror
  | some e =>
    by_cases hcap : l.cap ≤ l.errors.length
    · simp only [hcap, if_true]
      exact .dropped e hm herror hcap
    · simp only [hcap, if_false]
      exact .kept e hm herror (Nat.lt_of_not_le hcap)

/-- **A line does one of the five things, unless the log has ended.** -/
theorem line_step (l : StepLog) (text : String) (n : Nat) (h : l.phase ≠ .ended) :
    LineStep l text n (l.line text n) := by
  have hordinary := ordinary_step l text n
  obtain ⟨phase, classifier, closed, open?, errors, truncated, cap, lastLine⟩ := l
  cases phase with
  | ended => exact absurd rfl h
  | inside =>
    unfold line
    cases hm : Marker.read? .finished text with
    | some m => exact .closes m rfl hm
    | none => exact hordinary hm
  | outside =>
    unfold line
    cases hm : Marker.read? .started text with
    | some m => exact .opens m rfl hm
    | none => exact hordinary hm

theorem line_of_ordinary {l : StepLog} {text : String} (h : l.phase ≠ .ended)
    (hm : markerAt? l.isOpen text = none) (n : Nat) :
    l.line text n = { l with lastLine := n }.ordinary text n := by
  unfold line
  cases hphase : l.phase with
  | ended => exact absurd hphase h
  | inside =>
    have hread : Marker.read? .finished text = none := by simpa [markerAt?, isOpen, hphase] using hm
    simp only [hread]
  | outside =>
    have hread : Marker.read? .started text = none := by simpa [markerAt?, isOpen, hphase] using hm
    simp only [hread]

/-- The cases of a line exclude each other, so each tells what the line does. -/
theorem LineStep.line_eq {l l' : StepLog} {text : String} {n : Nat} (hstep : LineStep l text n l')
    (h : l.phase ≠ .ended) : l.line text n = l' := by
  cases hstep with
  | opens m hphase hm =>
    have hread : Marker.read? .started text = some m := by
      simpa [markerAt?, isOpen, hphase] using hm
    simp only [line, hphase, hread]
  | closes m hphase hm =>
    have hread : Marker.read? .finished text = some m := by
      simpa [markerAt?, isOpen, hphase] using hm
    simp only [line, hphase, hread]
  | quiet hm herror =>
    rw [line_of_ordinary h hm]
    simp only [ordinary, herror]
  | dropped e hm herror hcap =>
    rw [line_of_ordinary h hm]
    simp only [ordinary, herror, if_pos hcap]
  | kept e hm herror hcap =>
    rw [line_of_ordinary h hm]
    simp only [ordinary, herror, if_neg (Nat.not_le_of_lt hcap)]

theorem line_of_ended {l : StepLog} (h : l.phase = .ended) (text : String) (n : Nat) :
    l.line text n = l := by
  unfold line
  rw [h]

theorem finish_of_ended {l : StepLog} (h : l.phase = .ended) (n : Nat) : l.finish n = l := by
  unfold finish
  rw [h]

/-- The end of the log closes the open step. -/
theorem finish_eq {l : StepLog} (h : l.phase ≠ .ended) (n : Nat) :
    l.finish n =
      { l with phase := .ended, closed := l.closedAt (max n l.lastLine), open? := none } := by
  unfold finish
  cases hphase : l.phase with
  | ended => exact absurd hphase h
  | inside | outside => rfl

theorem LineStep.live {l l' : StepLog} {text : String} {n : Nat} (hstep : LineStep l text n l')
    (h : l.phase ≠ .ended) : l'.phase ≠ .ended := by
  cases hstep with
  | opens | closes => simp [enter, leave]
  | quiet | dropped | kept => exact h

theorem LineStep.lastLine_eq {l l' : StepLog} {text : String} {n : Nat}
    (hstep : LineStep l text n l') : l'.lastLine = n := by
  cases hstep with
  | opens | closes | quiet | dropped | kept => rfl

/-! ### The phase and the open step -/

theorem steps_of_none {l : StepLog} (h : l.open? = none) : l.steps = l.closed := by
  simp [steps, h]

theorem steps_of_some {l : StepLog} {s : Step} (h : l.open? = some s) :
    l.steps = l.closed ++ [s] := by
  simp [steps, h]

/-- A marked step is open inside, at most a nameless one outside, and none at the end. -/
structure Phased (l : StepLog) : Prop where
  inside : l.phase = .inside → ∃ s, l.open? = some s ∧ s.name ≠ ""
  outside : l.phase = .outside → ∀ s, l.open? = some s → s.name = ""
  ended : l.phase = .ended → l.open? = none

theorem phased_start (cap : Nat) : (start cap).Phased where
  inside h := by simp [start] at h
  outside _ s hs := by simp [start] at hs
  ended h := by simp [start] at h

theorem LineStep.phased {l l' : StepLog} {text : String} {n : Nat} (hstep : LineStep l text n l')
    (hlive : l.phase ≠ .ended) (h : l.Phased) : l'.Phased := by
  cases hstep with
  | opens m hphase hm =>
    have hname : String.ofList m.name ≠ "" := Marker.ofList_name_ne_empty hm
    exact ⟨by simpa [enter, Step.begin] using hname, by simp [enter], by simp [enter]⟩
  | closes m hphase hm => exact ⟨by simp [leave], by simp [leave], by simp [leave]⟩
  | quiet | dropped => exact ⟨h.inside, h.outside, h.ended⟩
  | kept e =>
    refine ⟨fun hphase => ?_, fun hphase s hs => ?_, fun hphase => absurd hphase hlive⟩
    · obtain ⟨s, hs, hname⟩ := h.inside hphase
      exact ⟨s.addError (.ofLine n e), by simp [addError, hs], hname⟩
    -- outside, the error is added to a step without a name, be it open or opened for the error
    · cases hopen : l.open? with
      | none =>
        simp only [addError, hopen, Option.getD_none, Option.some.injEq] at hs
        exact hs ▸ rfl
      | some t =>
        simp only [addError, hopen, Option.getD_some, Option.some.injEq] at hs
        exact hs ▸ h.outside hphase t hopen

theorem phased_line {l : StepLog} (h : l.Phased) (text : String) (n : Nat) :
    (l.line text n).Phased := by
  by_cases hended : l.phase = .ended
  · rwa [line_of_ended hended]
  · exact (line_step l text n hended).phased hended h

theorem phased_finish {l : StepLog} (h : l.Phased) (n : Nat) : (l.finish n).Phased := by
  by_cases hended : l.phase = .ended
  · rwa [finish_of_ended hended]
  · rw [finish_eq hended]
    exact ⟨nofun, nofun, fun _ => rfl⟩

/-! ### Runs -/

@[simp] theorem lines_nil (l : StepLog) : l.lines [] = l := rfl

@[simp] theorem lines_cons (l : StepLog) (x : String × Nat) (ls : List (String × Nat)) :
    l.lines (x :: ls) = (l.line x.1 x.2).lines ls := rfl

@[simp] theorem calls_nil (l : StepLog) : l.calls [] = l := rfl

@[simp] theorem calls_cons (l : StepLog) (c : StepCall) (cs : List StepCall) :
    l.calls (c :: cs) = (l.call c).calls cs := rfl

theorem lines_live {l : StepLog} (hlive : l.phase ≠ .ended) (ls : List (String × Nat)) :
    (l.lines ls).phase ≠ .ended := by
  induction ls generalizing l with
  | nil => exact hlive
  | cons x ls ih => exact ih ((line_step l x.1 x.2 hlive).live hlive)

theorem lines_phased {l : StepLog} (hl : l.Phased) (ls : List (String × Nat)) :
    (l.lines ls).Phased := by
  induction ls generalizing l with
  | nil => exact hl
  | cons x ls ih => exact ih (phased_line hl x.1 x.2)

/-- The number of the last line that was read. -/
theorem lines_lastLine {l : StepLog} (hlive : l.phase ≠ .ended) (ls : List (String × Nat)) :
    (l.lines ls).lastLine = (ls.getLast?.map Prod.snd).getD l.lastLine := by
  induction ls generalizing l with
  | nil => rfl
  | cons x ls ih =>
    have hstep := line_step l x.1 x.2 hlive
    rw [lines_cons, ih (hstep.live hlive), hstep.lastLine_eq]
    cases ls with
    | nil => rfl
    | cons y ls => simp [List.getLast?_eq_some_getLast]

/-! ### The end -/

theorem phase_finish (l : StepLog) (n : Nat) : (l.finish n).phase = .ended := by
  by_cases hended : l.phase = .ended
  · rwa [finish_of_ended hended]
  · rw [finish_eq hended]

theorem errors_finish (l : StepLog) (n : Nat) : (l.finish n).errors = l.errors := by
  unfold finish
  split <;> rfl

theorem truncated_finish (l : StepLog) (n : Nat) : (l.finish n).truncated = l.truncated := by
  unfold finish
  split <;> rfl

theorem call_of_ended {l : StepLog} (h : l.phase = .ended) (c : StepCall) : l.call c = l := by
  cases c with
  | line text n => exact line_of_ended h text n
  | finish n => exact finish_of_ended h n

/-- **Once a log has ended, no call changes it.** -/
theorem calls_of_ended {l : StepLog} (h : l.phase = .ended) (cs : List StepCall) :
    l.calls cs = l := by
  induction cs with
  | nil => rfl
  | cons c cs ih => rwa [calls_cons, call_of_ended h]

end StepLog
end JobLog
