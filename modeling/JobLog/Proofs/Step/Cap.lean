import JobLog.Proofs.Step.Partition
import JobLog.Proofs.Step.Scan

/-!
# The steps under two caps

How many errors are kept has no influence on the steps but for their errors. A log that is read
with two caps has the same marked steps, and as long as errors are kept, the same steps without a
name; each step keeps its first errors.

* `Step.Abridges` says of a step that it is another one with some of its last errors left out.
* `Abridged` says it of all steps: the named ones in turn, and the first ones without a name.
* `StepLog.Capped` compares a log that is read with two caps: it is the same until the smaller one
  is reached, and then its steps are abridged. Every line keeps this.
* `StepLog.abridged_of_cap_le` is the result for a log that was ended.
-/

namespace JobLog

/-! ### Steps -/

/-- The step is the other one with some of its last errors left out. Its place among the steps may
differ. -/
structure Step.Abridges (s t : Step) : Prop where
  span_eq : s.span = t.span
  errors : s.errors <+: t.errors

namespace Step

variable {s t : Step}

theorem Abridges.refl (s : Step) : s.Abridges s := ⟨rfl, List.prefix_refl _⟩

theorem Abridges.name_eq (h : s.Abridges t) : s.name = t.name := congrArg StepSpan.name h.span_eq

theorem Abridges.finish (h : s.Abridges t) (n : Nat) (finished? : Option Timestamp)
    (result : StepResult) :
    (s.finish n finished? result).Abridges (t.finish n finished? result) where
  span_eq := by rw [span_finish, span_finish, h.span_eq]
  errors := h.errors

theorem Abridges.addError (h : s.Abridges t) (e : ErrorLine) : s.Abridges (t.addError e) where
  span_eq := h.span_eq
  errors := h.errors.trans (List.prefix_append _ _)

end Step

/-- The steps with a name. -/
def namedSteps (ss : List Step) : List Step := ss.filter (·.name ≠ "")

/-- The steps without a name. -/
def namelessSteps (ss : List Step) : List Step := ss.filter (·.name = "")

section

variable {s : Step} (ss : List Step)

theorem namedSteps_concat_of_ne (h : s.name ≠ "") :
    namedSteps (ss ++ [s]) = namedSteps ss ++ [s] := by
  simp [namedSteps, h]

theorem namedSteps_concat_of_eq (h : s.name = "") : namedSteps (ss ++ [s]) = namedSteps ss := by
  simp [namedSteps, h]

theorem namelessSteps_concat_of_ne (h : s.name ≠ "") :
    namelessSteps (ss ++ [s]) = namelessSteps ss := by
  simp [namelessSteps, h]

theorem namelessSteps_concat_of_eq (h : s.name = "") :
    namelessSteps (ss ++ [s]) = namelessSteps ss ++ [s] := by
  simp [namelessSteps, h]

end

/-- The first steps are the second ones with errors left out: all named ones in turn, and the
first ones of those without a name. -/
structure Abridged (ss ts : List Step) : Prop where
  named : List.Forall₂ Step.Abridges (namedSteps ss) (namedSteps ts)
  nameless : List.Forall₂ Step.Abridges (namelessSteps ss)
    ((namelessSteps ts).take (namelessSteps ss).length)

/-- As many steps without a name on both sides. -/
def EvenNameless (ss ts : List Step) : Prop := (namelessSteps ss).length = (namelessSteps ts).length

namespace Abridged

variable {ss ts : List Step} {s t : Step}

theorem refl (ss : List Step) : Abridged ss ss where
  named := List.forall₂_same.2 fun s _ => .refl s
  nameless := by
    rw [List.take_length]
    exact List.forall₂_same.2 fun s _ => .refl s

theorem length_le (h : Abridged ss ts) : (namelessSteps ss).length ≤ (namelessSteps ts).length := by
  have hlength := h.nameless.length_eq
  rw [List.length_take] at hlength
  omega

/-- A step is added on both sides. -/
theorem concat (h : Abridged ss ts) (hst : s.Abridges t)
    (heven : s.name = "" → EvenNameless ss ts) : Abridged (ss ++ [s]) (ts ++ [t]) := by
  by_cases hname : s.name = ""
  · have hname' : t.name = "" := hst.name_eq ▸ hname
    have htake := h.nameless
    rw [heven hname, List.take_length] at htake
    constructor
    · rw [namedSteps_concat_of_eq ss hname, namedSteps_concat_of_eq ts hname']
      exact h.named
    · rw [namelessSteps_concat_of_eq ss hname, namelessSteps_concat_of_eq ts hname',
        List.length_append, heven hname, List.take_of_length_le (by simp)]
      exact List.rel_append htake (.cons hst .nil)
  · have hname' : t.name ≠ "" := hst.name_eq ▸ hname
    constructor
    · rw [namedSteps_concat_of_ne ss hname, namedSteps_concat_of_ne ts hname']
      exact List.rel_append h.named (.cons hst .nil)
    · rw [namelessSteps_concat_of_ne ss hname, namelessSteps_concat_of_ne ts hname']
      exact h.nameless

/-- A step without a name is added on the side of the greater cap alone. -/
theorem concat_right (h : Abridged ss ts) (hname : t.name = "") : Abridged ss (ts ++ [t]) where
  named := by
    rw [namedSteps_concat_of_eq ts hname]
    exact h.named
  nameless := by
    rw [namelessSteps_concat_of_eq ts hname, List.take_append_of_le_length h.length_le]
    exact h.nameless

end Abridged

/-- The open steps behind closed ones: the first is the second with errors left out, and if they
have no name, then they stand at the same place; or there is none under the smaller cap, and under
the greater one at most one without a name. -/
inductive OpenAbridged (ss ts : List Step) : Option Step → Option Step → Prop
  | both {s t : Step} (h : s.Abridges t) (heven : s.name = "" → EvenNameless ss ts) :
      OpenAbridged ss ts (some s) (some t)
  | gone {t? : Option Step} (hname : ∀ t, t? = some t → t.name = "") : OpenAbridged ss ts none t?

namespace OpenAbridged

variable {ss ts : List Step} {s? t? : Option Step}

theorem refl (ss : List Step) (s? : Option Step) : OpenAbridged ss ss s? s? := by
  cases s? with
  | none => exact .gone (by simp)
  | some s => exact .both (.refl s) fun _ => rfl

/-- The open steps are closed. -/
theorem finish (h : OpenAbridged ss ts s? t?) (hclosed : Abridged ss ts) (n : Nat)
    (finished? : Option Timestamp) (result : StepResult) :
    Abridged (ss ++ (s?.map (·.finish n finished? result)).toList)
      (ts ++ (t?.map (·.finish n finished? result)).toList) := by
  cases h with
  | both h heven => exact hclosed.concat (h.finish n finished? result) heven
  | @gone t? hname =>
    cases t? with
    | none => simpa using hclosed
    | some t =>
      have ht : (t.finish n finished? result).name = "" := hname t rfl
      simpa using hclosed.concat_right ht

/-- An error is kept on the side of the greater cap alone. -/
theorem addError (h : OpenAbridged ss ts s? t?) (order line : Nat) (e : ErrorLine) :
    OpenAbridged ss ts s? (some ((t?.getD (.begin "" order line none)).addError e)) := by
  cases h with
  | both h heven => exact .both (h.addError e) heven
  | @gone t? hname =>
    refine .gone fun u hu => ?_
    obtain rfl := Option.some.inj hu
    cases t? with
    | none => rfl
    | some t => exact hname t rfl

end OpenAbridged

/-! ### Logs -/

namespace StepLog

/-- A log that is read with two caps. -/
inductive Capped : StepLog → StepLog → Prop
  | same (l : StepLog) {cap : Nat} (h : l.cap ≤ cap) : Capped l { l with cap := cap }
  | parted {l l' : StepLog} (hfull : l.cap ≤ l.errors.length) (hphase : l'.phase = l.phase)
      (hclassifier : l'.classifier = l.classifier) (hlast : l'.lastLine = l.lastLine)
      (hclosed : Abridged l.closed l'.closed)
      (hopen : OpenAbridged l.closed l'.closed l.open? l'.open?) : Capped l l'

/-- **A line does the same under both caps**, but for the errors. -/
theorem LineStep.capped {l l₁ l' : StepLog} {text : String} {n : Nat}
    (hstep : LineStep l text n l₁) (hlive : l.phase ≠ .ended) (h : Capped l l') :
    Capped l₁ (l'.line text n) := by
  cases h with
  | @same cap hle =>
    have hline := fun l₂ (h : LineStep { l with cap := cap } text n l₂) => h.line_eq hlive
    cases hstep with
    | opens m hphase hm =>
      rw [hline _ (.opens m hphase hm)]
      exact .same _ hle
    | closes m hphase hm =>
      rw [hline _ (.closes m hphase hm)]
      exact .same _ hle
    | quiet hm herror =>
      rw [hline _ (.quiet hm herror)]
      exact .same _ hle
    | kept e hm herror hroom =>
      rw [hline _ (.kept e hm herror (Nat.lt_of_lt_of_le hroom hle))]
      exact .same _ hle
    | dropped e hm herror hfull =>
      by_cases hfull' : cap ≤ l.errors.length
      · rw [hline _ (.dropped e hm herror hfull')]
        exact .same _ hle
      -- here the two part: the error is kept under the greater cap alone
      · rw [hline _ (.kept e hm herror (Nat.lt_of_not_le hfull'))]
        exact .parted hfull rfl rfl rfl (.refl l.closed)
          ((OpenAbridged.refl l.closed l.open?).addError _ _ _)
  | parted hfull hphase' hclassifier hlast hclosed hopen =>
    have hlive' : l'.phase ≠ .ended := hphase' ▸ hlive
    have hisOpen : l'.isOpen = l.isOpen := by rw [isOpen, isOpen, hphase']
    cases hstep with
    | opens m hphase hm =>
      have hname : String.ofList m.name ≠ "" := Marker.ofList_name_ne_empty hm
      rw [LineStep.line_eq (.opens m (hphase'.trans hphase) (hisOpen ▸ hm)) hlive']
      exact .parted hfull rfl hclassifier rfl (hopen.finish hclosed (n - 1) none .unknown)
        (.both ⟨rfl, List.prefix_refl _⟩ fun hempty => absurd hempty hname)
    | closes m hphase hm =>
      rw [LineStep.line_eq (.closes m (hphase'.trans hphase) (hisOpen ▸ hm)) hlive']
      exact .parted hfull rfl hclassifier rfl (hopen.finish hclosed n m.timestamp? m.result)
        (.gone (by simp [leave]))
    | quiet hm herror =>
      rw [LineStep.line_eq (.quiet (hisOpen ▸ hm) (hclassifier ▸ herror)) hlive']
      exact .parted hfull hphase' (congrArg (·.after text) hclassifier) rfl hclosed hopen
    | kept e hm herror hroom => exact absurd hfull (Nat.not_le_of_lt hroom)
    | dropped e hm herror =>
      have hafter := congrArg (·.after text) hclassifier
      by_cases hfull' : l'.cap ≤ l'.errors.length
      · rw [LineStep.line_eq (.dropped e (hisOpen ▸ hm) (hclassifier ▸ herror) hfull') hlive']
        exact .parted hfull hphase' hafter rfl hclosed hopen
      · rw [LineStep.line_eq (.kept e (hisOpen ▸ hm) (hclassifier ▸ herror)
          (Nat.lt_of_not_le hfull')) hlive']
        exact .parted hfull hphase' hafter rfl hclosed (hopen.addError _ _ _)

theorem capped_lines {l l' : StepLog} (hlive : l.phase ≠ .ended) (h : Capped l l')
    (ls : List (String × Nat)) : Capped (l.lines ls) (l'.lines ls) := by
  induction ls generalizing l l' with
  | nil => exact h
  | cons x ls ih =>
    have hstep := line_step l x.1 x.2 hlive
    exact ih (hstep.live hlive) (hstep.capped hlive h)

/-- The end closes the open steps on the same line. -/
theorem Capped.abridged_finish {l l' : StepLog} (h : Capped l l') (hlive : l.phase ≠ .ended)
    (n : Nat) : Abridged (l.finish n).closed (l'.finish n).closed := by
  rw [finish_eq hlive]
  cases h with
  | @same cap _ =>
    rw [finish_eq (l := { l with cap := cap }) hlive]
    exact .refl _
  | parted _ hphase _ hlast hclosed hopen =>
    rw [finish_eq (hphase ▸ hlive), hlast]
    exact hopen.finish hclosed _ none .unknown

/-- The errors that are kept are the first ones that are found. -/
theorem errors_lines (cap : Nat) (ls : List (String × Nat)) :
    ((start cap).lines ls).errors =
      (Classifier.start.errorsIn (ordinaryLines false ls)).take cap := by
  have hkeeps := (keeps_start cap ls).lines (by simp [start])
  have hfound : ((start cap).lines ls).found [] = ((start cap).lines ls).errors := by
    simp [found, ordinaryLines, Classifier.errorsIn]
  have htake := hkeeps.take_eq
  rwa [hfound, List.take_of_length_le hkeeps.length_le] at htake

/-- **A smaller cap leaves the steps as they are, but for their errors**: there are the same named
steps, the first ones of those without a name, and each has the first of its errors; taken together,
these are the first errors of all, up to the cap. -/
theorem abridged_of_cap_le {cap cap' : Nat} (hcap : cap ≤ cap') (ls : List (String × Nat))
    (n : Nat) :
    let steps := (((start cap).lines ls).finish n).data.steps
    let steps' := (((start cap').lines ls).finish n).data.steps
    Abridged steps steps' ∧
      steps.flatMap Step.errors = (steps'.flatMap Step.errors).take cap := by
  intro steps steps'
  have hlive : (start cap).phase ≠ .ended := by simp [start]
  refine ⟨(capped_lines hlive (.same _ hcap) ls).abridged_finish (lines_live hlive ls) n, ?_⟩
  rw [flatMap_errors_finish, flatMap_errors_finish, errors_lines, errors_lines, List.take_take,
    Nat.min_eq_left hcap]

/-- Errors before, in, between and in steps. -/
def fiveErrors : List (String × Nat) := [
  ("abort: before", 1),
  ("========= Started a (results: 0, elapsed: 0 secs) (at 2016-07-13 16:09:31) =========", 2),
  ("abort: first", 3),
  ("abort: second", 4),
  ("========= Finished a (results: 2, elapsed: 0 secs) (at 2016-07-13 16:09:31) =========", 5),
  ("abort: between", 6),
  ("========= Started b (results: 0, elapsed: 0 secs) (at 2016-07-13 16:09:31) =========", 8),
  ("abort: last", 9)]

/-- The cap is reached inside the first step, so the step between the two is missing. -/
theorem abridged_of_cap_le_fiveErrors :
    let steps := (((start 2).lines fiveErrors).finish 10).data.steps
    let steps' := (((start 100).lines fiveErrors).finish 10).data.steps
    Abridged steps steps' ∧
      steps.map (fun s => (s.name, s.firstLine, s.lastLine, s.errors.map ErrorLine.number)) =
        [("", 1, 1, [1]), ("a", 2, 5, [3]), ("b", 8, 10, [])] ∧
      steps'.map (fun s => (s.name, s.firstLine, s.lastLine, s.errors.map ErrorLine.number)) =
        [("", 1, 1, [1]), ("a", 2, 5, [3, 4]), ("", 6, 7, [6]), ("b", 8, 10, [9])] :=
  ⟨(abridged_of_cap_le (by decide) fiveErrors 10).1, by decide +kernel, by decide +kernel⟩

end StepLog
end JobLog
