import JobLog.Proofs.Step.Cases

/-!
# Logs that are read further

A log may break off anywhere. What was found by then stays: behind more lines a log has the same
closed steps at its start, the errors that were kept, and the open step, which may have got more
errors or have been closed.

* `Step.Grows` says what stays of a step, `StepsGrow` says it of the steps at the same places.
* `StepLog.Ahead` compares two states of a log. Every line leads ahead, and so does the end; only
  markers and the end close steps.
* `StepData.GrowsInto` compares the summaries of two logs that were both ended, and
  `StepLog.data_growsInto` is the result for a log and its first lines.
-/

namespace JobLog

/-! ### Steps -/

/-- What stays of a step while it gets errors and is closed. -/
structure Step.Grows (s s' : Step) : Prop where
  name_eq : s'.name = s.name
  order_eq : s'.order = s.order
  firstLine_eq : s'.firstLine = s.firstLine
  started_eq : s'.started? = s.started?
  errors : s.errors <+: s'.errors

namespace Step

theorem Grows.refl (s : Step) : s.Grows s := ⟨rfl, rfl, rfl, rfl, List.prefix_refl _⟩

theorem Grows.trans {s t u : Step} (h : s.Grows t) (h' : t.Grows u) : s.Grows u where
  name_eq := h'.name_eq.trans h.name_eq
  order_eq := h'.order_eq.trans h.order_eq
  firstLine_eq := h'.firstLine_eq.trans h.firstLine_eq
  started_eq := h'.started_eq.trans h.started_eq
  errors := h.errors.trans h'.errors

theorem grows_addError (s : Step) (e : ErrorLine) : s.Grows (s.addError e) :=
  ⟨rfl, rfl, rfl, rfl, List.prefix_append _ _⟩

/-- Closing a step leaves what stays of it. -/
theorem grows_finish (s : Step) (n : Nat) (finished? : Option Timestamp) (result : StepResult) :
    s.Grows (s.finish n finished? result) ∧ (s.finish n finished? result).Grows s :=
  ⟨⟨rfl, rfl, rfl, rfl, List.prefix_refl _⟩, ⟨rfl, rfl, rfl, rfl, List.prefix_refl _⟩⟩

end Step

/-- Each step has grown into the one at its place. -/
def StepsGrow (ss ss' : List Step) : Prop :=
  ∀ (i : Nat) (s : Step), ss[i]? = some s → ∃ s', ss'[i]? = some s' ∧ s.Grows s'

namespace StepsGrow

theorem refl (ss : List Step) : StepsGrow ss ss := fun _ s hs => ⟨s, hs, .refl s⟩

theorem trans {ss ts us : List Step} (h : StepsGrow ss ts) (h' : StepsGrow ts us) :
    StepsGrow ss us := by
  intro i s hs
  obtain ⟨t, ht, hst⟩ := h i s hs
  obtain ⟨u, hu, htu⟩ := h' i t ht
  exact ⟨u, hu, hst.trans htu⟩

/-- More steps may follow. -/
theorem append (ss more : List Step) : StepsGrow ss (ss ++ more) := by
  intro i s hs
  obtain ⟨hi, -⟩ := List.getElem?_eq_some_iff.1 hs
  exact ⟨s, by rwa [List.getElem?_append_left hi], .refl s⟩

/-- The last step may grow. -/
theorem last (ss : List Step) {s s' : Step} (h : s.Grows s') :
    StepsGrow (ss ++ [s]) (ss ++ [s']) := by
  intro i t ht
  rcases Nat.lt_trichotomy i ss.length with hi | rfl | hi
  · rw [List.getElem?_append_left hi] at ht ⊢
    exact ⟨t, ht, .refl t⟩
  · obtain rfl : s = t := by simpa using ht
    exact ⟨s', by simp, h⟩
  · have hnone : (ss ++ [s])[i]? = none := List.getElem?_eq_none (by simp; omega)
    simp [hnone] at ht

end StepsGrow

/-! ### Logs -/

namespace StepLog

/-- The second log was read further than the first. -/
structure Ahead (l l' : StepLog) : Prop where
  closed : l.closed <+: l'.closed
  steps : StepsGrow l.steps l'.steps
  errors : l.errors <+: l'.errors
  truncated : l.truncated = true → l'.truncated = true

theorem Ahead.refl (l : StepLog) : l.Ahead l :=
  ⟨List.prefix_refl _, .refl _, List.prefix_refl _, id⟩

theorem Ahead.trans {l l' l'' : StepLog} (h : l.Ahead l') (h' : l'.Ahead l'') : l.Ahead l'' where
  closed := h.closed.trans h'.closed
  steps := h.steps.trans h'.steps
  errors := h.errors.trans h'.errors
  truncated := h'.truncated ∘ h.truncated

/-- The open step may grow into one that is closed or open, or one may be opened where none is. -/
theorem stepsGrow_of_open (l : StepLog) {f : Step → Step} (hf : ∀ s : Step, s.Grows (f s))
    (more : List Step) :
    StepsGrow l.steps (l.closed ++ (l.open?.map f).toList ++ more) := by
  refine StepsGrow.trans ?_ (.append _ more)
  unfold steps
  cases l.open? with
  | none => exact .refl _
  | some s => exact .last l.closed (hf s)

/-- **A line leads ahead.** -/
theorem LineStep.ahead {l l' : StepLog} {text : String} {n : Nat} (hstep : LineStep l text n l') :
    l.Ahead l' := by
  cases hstep with
  | opens m =>
    refine ⟨List.prefix_append _ _, ?_, List.prefix_refl _, id⟩
    exact l.stepsGrow_of_open (fun s => (s.grows_finish (n - 1) none .unknown).1) _
  | closes m =>
    refine ⟨List.prefix_append _ _, ?_, List.prefix_refl _, id⟩
    exact l.stepsGrow_of_open (fun s => (s.grows_finish n m.timestamp? m.result).1) []
  | quiet => exact ⟨List.prefix_refl _, .refl _, List.prefix_refl _, id⟩
  | dropped => exact ⟨List.prefix_refl _, .refl _, List.prefix_refl _, fun _ => rfl⟩
  | kept e =>
    refine ⟨List.prefix_refl _, ?_, List.prefix_append _ _, id⟩
    cases hopen : l.open? with
    | none =>
      rw [steps_of_none hopen]
      exact .append l.closed _
    | some s =>
      have hlast := StepsGrow.last l.closed (s.grows_addError (.ofLine n e))
      rw [← steps_of_some hopen] at hlast
      simpa [addError, steps, hopen] using hlast

theorem ahead_line (l : StepLog) (text : String) (n : Nat) : l.Ahead (l.line text n) := by
  by_cases hended : l.phase = .ended
  · rw [line_of_ended hended]
    exact .refl l
  · exact (line_step l text n hended).ahead

/-- The end leads ahead. -/
theorem ahead_finish (l : StepLog) (n : Nat) : l.Ahead (l.finish n) := by
  by_cases hended : l.phase = .ended
  · rw [finish_of_ended hended]
    exact .refl l
  · rw [finish_eq hended]
    refine ⟨List.prefix_append _ _, ?_, List.prefix_refl _, id⟩
    exact l.stepsGrow_of_open (fun s => (s.grows_finish _ none .unknown).1) []

theorem ahead_lines (l : StepLog) (ls : List (String × Nat)) : l.Ahead (l.lines ls) := by
  induction ls generalizing l with
  | nil => exact .refl l
  | cons x ls ih => exact (l.ahead_line x.1 x.2).trans (ih _)

end StepLog

/-! ### Summaries -/

/-- The second summary is of a log that goes on where the first one breaks off: `closed` are the
steps that were closed by then, which stay as they are, and at most one step was open. -/
structure StepData.GrowsInto (closed : List Step) (d d' : StepData) : Prop where
  errors : d.errors <+: d'.errors
  truncated : d.truncated = true → d'.truncated = true
  closed_left : closed <+: d.steps
  closed_right : closed <+: d'.steps
  length_le : d.steps.length ≤ closed.length + 1
  steps : StepsGrow d.steps d'.steps

namespace StepLog

theorem lines_append (l : StepLog) (ls more : List (String × Nat)) :
    l.lines (ls ++ more) = (l.lines ls).lines more := List.foldl_append

/-- What stays of the steps is the same once a log is ended. -/
theorem stepsGrow_closedAt (l : StepLog) (n : Nat) : StepsGrow (l.closedAt n) l.steps := by
  unfold closedAt steps
  cases l.open? with
  | none => exact .refl _
  | some s => exact .last l.closed (s.grows_finish n none .unknown).2

/-- **A log that breaks off tells what the whole log tells**, as far as it goes. -/
theorem data_growsInto {l : StepLog} (hlive : l.phase ≠ .ended) (more : List (String × Nat))
    (n m : Nat) :
    (l.finish n).data.GrowsInto l.closed ((l.lines more).finish m).data := by
  have hahead : l.Ahead ((l.lines more).finish m) :=
    (l.ahead_lines more).trans (ahead_finish _ m)
  have hsteps : ((l.lines more).finish m).steps = ((l.lines more).finish m).closed := by
    rw [finish_eq (lines_live hlive more)]
    simp [steps]
  rw [finish_eq hlive]
  refine ⟨hahead.errors, hahead.truncated, List.prefix_append _ _, hahead.closed, ?_, ?_⟩
  · cases hopen : l.open? <;> simp [data, closedAt, hopen]
  · refine (l.stepsGrow_closedAt _).trans ?_
    have hgrow := hahead.steps
    rwa [hsteps] at hgrow

end StepLog
end JobLog
