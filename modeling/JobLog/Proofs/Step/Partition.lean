import JobLog.Proofs.Step.Cases
import Mathlib.Data.List.Chain
import Mathlib.Data.List.Forall2

/-!
# The errors of a log by its steps

The errors that are kept stand twice in a log, in one list and in the steps. Behind any calls, the
errors of the steps, taken in order, are that list.

* `Opening` is what opens a step: a start marker, or an error that is kept while no step is open.
  `StepLog.openings` lists them for a run.
* `Partition` says how the openings, the errors and the steps of a log belong together, and has one
  lemma for each thing that is done with the last step.
* `partition_calls` says it of every log, and that an ended log stays as it is.
-/

namespace JobLog

/-! ### Openings -/

/-- What opens a step. -/
inductive Opening
  | marker (m : Marker) (line : Nat)
  | error (e : ErrorLine)

/-- A step without a name, which an error has opened. It has no times and no result. -/
structure Step.Bucket (s : Step) (e : ErrorLine) : Prop where
  name_eq : s.name = ""
  head_eq : s.errors.head? = some e
  firstLine_eq : s.firstLine = e.number
  started_eq : s.started? = none
  finished_eq : s.finished? = none
  seconds_eq : s.seconds? = none
  result_eq : s.result = .unknown

/-- A step was opened so; a marker opens a step with a name, an error a step without one. -/
def Opening.Opens : Opening → Step → Prop
  | .marker m n, s =>
    s.name = String.ofList m.name ∧ s.name ≠ "" ∧ s.firstLine = n ∧ s.started? = m.timestamp?
  | .error e, s => s.Bucket e

theorem Step.Bucket.finish {s : Step} {e : ErrorLine} (h : s.Bucket e) (n : Nat) :
    (s.finish n none .unknown).Bucket e :=
  { h with finished_eq := rfl, result_eq := rfl, seconds_eq := by simp [Step.finish, duration?] }

theorem Step.Bucket.addError {s : Step} {e : ErrorLine} (h : s.Bucket e) (e' : ErrorLine) :
    (s.addError e').Bucket e :=
  { h with head_eq := by simp [Step.addError, h.head_eq] }

namespace Opening

/-- A step may be closed by a marker if it has a name, and without one if it has none. -/
theorem Opens.finish {o : Opening} {s : Step} {finished? : Option Timestamp} {result : StepResult}
    (h : o.Opens s) (hend : s.name ≠ "" ∨ finished? = none ∧ result = .unknown) (n : Nat) :
    o.Opens (s.finish n finished? result) := by
  cases o with
  | marker => exact h
  | error e =>
    obtain hname | ⟨rfl, rfl⟩ := hend
    · exact absurd (Step.Bucket.name_eq h) hname
    · exact Step.Bucket.finish h n

theorem Opens.addError {o : Opening} {s : Step} (h : o.Opens s) (e : ErrorLine) :
    o.Opens (s.addError e) := by
  cases o with
  | marker => exact h
  | error e' => exact Step.Bucket.addError h e

end Opening

namespace StepLog

/-- What a call opens. -/
def opening? (l : StepLog) : StepCall → Option Opening
  | .finish _ => none
  | .line text n =>
    match l.phase, markerAt? l.isOpen text with
    | .outside, some m => some (.marker m n)
    | .outside, none =>
      if l.open?.isNone ∧ l.errors.length < l.cap then
        (l.classifier.error? text).map fun e => .error (.ofLine n e)
      else none
    | _, _ => none

theorem opening?_of_not_outside {l : StepLog} (h : l.phase ≠ .outside) (c : StepCall) :
    l.opening? c = none := by
  cases c with
  | finish n => rfl
  | line text n => cases hphase : l.phase <;> simp_all [opening?]

/-- A line that is no marker opens nothing if no error is kept or a step is open. -/
theorem opening?_of_ordinary {l : StepLog} {text : String} (hm : markerAt? l.isOpen text = none)
    (h : l.classifier.error? text = none ∨ l.cap ≤ l.errors.length ∨ l.open?.isSome) (n : Nat) :
    l.opening? (.line text n) = none := by
  by_cases hphase : l.phase = .outside
  · simp only [opening?, hphase, hm]
    obtain herror | hcap | hopen := h
    · simp [herror]
    · simp [Nat.not_lt_of_le hcap]
    · simp [Option.ne_none_iff_isSome.2 hopen]
  · exact opening?_of_not_outside hphase _

/-- The first error behind the end of a step opens one. -/
theorem opening?_of_kept {l : StepLog} {text e : String} (hphase : l.phase = .outside)
    (hm : markerAt? l.isOpen text = none) (herror : l.classifier.error? text = some e)
    (hcap : l.errors.length < l.cap) (hopen : l.open? = none) (n : Nat) :
    l.opening? (.line text n) = some (.error (.ofLine n e)) := by
  simp [opening?, hphase, hm, herror, hcap, hopen]

/-- What the calls open, in order. -/
def openings (l : StepLog) : List StepCall → List Opening
  | [] => []
  | c :: cs => (l.opening? c).toList ++ (l.call c).openings cs

end StepLog

/-! ### Partitions -/

/-- Steps that hold errors: every error is in one step, in order; the steps count their errors and
are numbered; they were opened by `os`, and no two neighbours have no name. -/
structure Partition (os : List Opening) (errors : List ErrorLine) (ss : List Step) : Prop where
  errors_eq : ss.flatMap Step.errors = errors
  count_eq : ∀ s ∈ ss, s.errorCount = s.errors.length
  order_eq : ss.map Step.order = List.range ss.length
  opened : List.Forall₂ Opening.Opens os ss
  apart : (ss.map Step.name).IsChain fun a b => a ≠ "" ∨ b ≠ ""

namespace Partition

variable {os : List Opening} {errors : List ErrorLine} {ss : List Step} {s : Step}

theorem nil : Partition [] [] [] := ⟨rfl, by simp, rfl, .nil, .nil⟩

/-- What opened a last step has opened what is made of it. -/
theorem opened_last {s' : Step} (h : List.Forall₂ Opening.Opens os (ss ++ [s]))
    (hlast : ∀ o : Opening, o.Opens s → o.Opens s') :
    List.Forall₂ Opening.Opens os (ss ++ [s']) := by
  induction ss generalizing os with
  | nil =>
    obtain ⟨o, os, ho, hos, rfl⟩ := List.forall₂_cons_right_iff.1 h
    exact .cons (hlast o ho) hos
  | cons t ss ih =>
    obtain ⟨o, os, ho, hos, rfl⟩ := List.forall₂_cons_right_iff.1 h
    exact .cons ho (ih hos)

/-- The last step is closed. -/
theorem finish (h : Partition os errors (ss ++ [s])) {finished? : Option Timestamp}
    {result : StepResult} (hend : s.name ≠ "" ∨ finished? = none ∧ result = .unknown) (n : Nat) :
    Partition os errors (ss ++ [s.finish n finished? result]) where
  errors_eq := by simpa [Step.finish] using h.errors_eq
  count_eq := by simpa [Step.finish, or_imp, forall_and] using h.count_eq
  order_eq := by simpa [Step.finish] using h.order_eq
  opened := opened_last h.opened fun o ho => ho.finish hend n
  apart := by simpa [Step.finish] using h.apart

/-- The last step gets an error. -/
theorem addError (h : Partition os errors (ss ++ [s])) (e : ErrorLine) :
    Partition os (errors ++ [e]) (ss ++ [s.addError e]) where
  errors_eq := by simp [Step.addError, ← h.errors_eq]
  count_eq t ht := by
    obtain ht | rfl := by simpa using ht
    · exact h.count_eq t (by simp [ht])
    · simp [Step.addError]
  order_eq := by simpa [Step.addError] using h.order_eq
  opened := opened_last h.opened fun o ho => ho.addError e
  apart := by simpa [Step.addError] using h.apart

theorem apart_append (h : Partition os errors ss) {name : String}
    (hname : name ≠ "" ∨ ∀ t ∈ ss.getLast?, t.name ≠ "") :
    (ss.map Step.name ++ [name]).IsChain fun a b => a ≠ "" ∨ b ≠ "" := by
  refine List.IsChain.append h.apart (.singleton name) fun a ha b hb => ?_
  obtain rfl : name = b := by simpa using hb
  rw [List.getLast?_map] at ha
  obtain ⟨t, ht, rfl⟩ := Option.map_eq_some_iff.1 ha
  exact hname.symm.imp_left fun hlast => hlast t ht

/-- A marker opens a step. -/
theorem begin_marker (h : Partition os errors ss) {m : Marker} (hm : String.ofList m.name ≠ "")
    (n : Nat) :
    Partition (os ++ [.marker m n]) errors
      (ss ++ [.begin (String.ofList m.name) ss.length n m.timestamp?]) where
  errors_eq := by simp [Step.begin, h.errors_eq]
  count_eq t ht := by
    obtain ht | rfl := by simpa using ht
    · exact h.count_eq t ht
    · rfl
  order_eq := by simp [Step.begin, h.order_eq, List.range_succ]
  opened := List.rel_append h.opened (.cons ⟨rfl, hm, rfl, rfl⟩ .nil)
  apart := by simpa [Step.begin] using h.apart_append (.inl hm)

/-- An error opens a step, if the last step has a name. -/
theorem begin_error (h : Partition os errors ss) (hlast : ∀ t ∈ ss.getLast?, t.name ≠ "")
    (e : ErrorLine) :
    Partition (os ++ [.error e]) (errors ++ [e])
      (ss ++ [(Step.begin "" ss.length e.number none).addError e]) where
  errors_eq := by simp [Step.begin, Step.addError, h.errors_eq]
  count_eq t ht := by
    obtain ht | rfl := by simpa using ht
    · exact h.count_eq t ht
    · rfl
  order_eq := by simp [Step.begin, Step.addError, h.order_eq, List.range_succ]
  opened := List.rel_append h.opened (.cons ⟨rfl, rfl, rfl, rfl, rfl, rfl, rfl⟩ .nil)
  apart := by simpa [Step.begin, Step.addError] using h.apart_append (.inr hlast)

end Partition

namespace StepLog

/-- The end closes the open step. -/
theorem partition_closedAt {l : StepLog} {os : List Opening} (h : Partition os l.errors l.steps)
    (n : Nat) : Partition os l.errors (l.closedAt n) := by
  cases hopen : l.open? with
  | none =>
    rw [steps_of_none hopen] at h
    simpa [closedAt, hopen] using h
  | some s =>
    rw [steps_of_some hopen] at h
    simpa [closedAt, hopen] using h.finish (.inr ⟨rfl, rfl⟩) n

/-! ### The invariant -/

/-- The errors are partitioned, and if no step is open outside, then the last one has a name. -/
structure Sorted (os : List Opening) (l : StepLog) : Prop extends Phased l where
  partition : Partition os l.errors l.steps
  rested : l.phase = .outside → l.open? = none → ∀ s ∈ l.closed.getLast?, s.name ≠ ""

theorem sorted_start (cap : Nat) : Sorted [] (start cap) where
  toPhased := phased_start cap
  partition := .nil
  rested _ _ s hs := by simp [start] at hs

/-- **A line keeps the errors partitioned**, and opens what it is said to open. -/
theorem LineStep.partition {l l' : StepLog} {text : String} {n : Nat} {os : List Opening}
    (hstep : LineStep l text n l') (hlive : l.phase ≠ .ended) (h : Sorted os l) :
    Partition (os ++ (l.opening? (.line text n)).toList) l'.errors l'.steps := by
  cases hstep with
  | opens m hphase hm =>
    have hname : String.ofList m.name ≠ "" := Marker.ofList_name_ne_empty hm
    -- the step that was open till now is closed first
    rw [opening?, hphase, hm]
    exact (partition_closedAt h.partition (n - 1)).begin_marker hname n
  | closes m hphase hm =>
    obtain ⟨s, hs, hname⟩ := h.inside hphase
    have hpartition := h.partition
    rw [steps_of_some hs] at hpartition
    simpa [opening?, hphase, leave, steps, hs] using hpartition.finish (.inl hname) n
  | quiet hm herror =>
    rw [opening?_of_ordinary hm (.inl herror), Option.toList_none, List.append_nil]
    exact h.partition
  | dropped e hm herror hcap =>
    rw [opening?_of_ordinary hm (.inr (.inl hcap)), Option.toList_none, List.append_nil]
    exact h.partition
  | kept e hm herror hcap =>
    have hpartition := h.partition
    cases hopen : l.open? with
    | some s =>
      rw [opening?_of_ordinary hm (.inr (.inr (by simp [hopen]))), Option.toList_none,
        List.append_nil]
      rw [steps_of_some hopen] at hpartition
      simpa [addError, steps, hopen] using hpartition.addError (.ofLine n e)
    | none =>
      -- no step is open, so the log stands outside and the error opens a step
      have hphase : l.phase = .outside := by
        cases hphase : l.phase with
        | outside => rfl
        | inside =>
          obtain ⟨s, hs, -⟩ := h.inside hphase
          simp [hopen] at hs
        | ended => exact absurd hphase hlive
      rw [opening?_of_kept hphase hm herror hcap hopen]
      rw [steps_of_none hopen] at hpartition
      simpa [addError, steps, hopen] using
        hpartition.begin_error (h.rested hphase hopen) (.ofLine n e)

theorem LineStep.rested {l l' : StepLog} {text : String} {n : Nat} {os : List Opening}
    (hstep : LineStep l text n l') (h : Sorted os l) (hphase' : l'.phase = .outside)
    (hopen' : l'.open? = none) : ∀ s ∈ l'.closed.getLast?, s.name ≠ "" := by
  cases hstep with
  | opens => simp [enter] at hphase'
  | closes m hphase hm =>
    obtain ⟨s, hs, hname⟩ := h.inside hphase
    simpa [leave, hs, Step.finish] using hname
  | quiet | dropped => exact h.rested hphase' hopen'
  | kept => simp [addError] at hopen'

theorem sorted_call {l : StepLog} {os : List Opening} (h : Sorted os l) (c : StepCall) :
    Sorted (os ++ (l.opening? c).toList) (l.call c) := by
  by_cases hended : l.phase = .ended
  · rw [call_of_ended hended, opening?_of_not_outside (by simp [hended]), Option.toList_none,
      List.append_nil]
    exact h
  · cases c with
    | line text n =>
      have hstep := line_step l text n hended
      exact ⟨hstep.phased hended h.toPhased, hstep.partition hended h, hstep.rested h⟩
    | finish n =>
      have hpartition := partition_closedAt h.partition (max n l.lastLine)
      refine ⟨phased_finish h.toPhased n, ?_, ?_⟩
      · rw [call, finish_eq hended]
        simpa [opening?, steps] using hpartition
      · rw [call, finish_eq hended]
        simp

theorem sorted_calls {l : StepLog} {os : List Opening} (h : Sorted os l) (cs : List StepCall) :
    Sorted (os ++ l.openings cs) (l.calls cs) := by
  induction cs generalizing l os with
  | nil => simpa [openings] using h
  | cons c cs ih =>
    rw [openings, ← List.append_assoc]
    exact ih (sorted_call h c)

theorem calls_line (l : StepLog) (ls : List (String × Nat)) :
    l.calls (ls.map fun x => .line x.1 x.2) = l.lines ls := List.foldl_map

/-- The steps of a log that was ended hold the errors that were kept. -/
theorem flatMap_errors_finish (cap : Nat) (ls : List (String × Nat)) (n : Nat) :
    (((start cap).lines ls).finish n).data.steps.flatMap Step.errors =
      ((start cap).lines ls).errors := by
  have hlive := lines_live (l := start cap) (by simp [start]) ls
  have hsorted := sorted_calls (sorted_start cap) (ls.map fun x => .line x.1 x.2)
  rw [calls_line] at hsorted
  rw [finish_eq hlive]
  exact (partition_closedAt hsorted.partition _).errors_eq

/-- **Behind all calls the errors are partitioned by the steps**, which were opened by markers and
by errors outside of the marked steps; and once a log has ended, no step is open and no call changes
anything. -/
theorem partition_calls (cap : Nat) (cs : List StepCall) :
    let l := (start cap).calls cs
    Partition ((start cap).openings cs) l.errors l.steps ∧
      ∀ n ds, (l.finish n).open? = none ∧ (l.finish n).calls ds = l.finish n := by
  intro l
  have hsorted := sorted_calls (sorted_start cap) cs
  refine ⟨hsorted.partition, fun n ds => ⟨?_, ?_⟩⟩
  · exact (phased_finish hsorted.toPhased n).ended (phase_finish l n)
  · exact calls_of_ended (phase_finish l n) ds

end StepLog
end JobLog
