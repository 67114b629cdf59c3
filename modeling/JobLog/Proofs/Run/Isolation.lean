import JobLog.Proofs.Run.Artifacts
import JobLog.Run

/-!
# Builders that run side by side

The builders of a run read the same lines, and none of them sees the others. What a run makes is
told by what each of its builders makes alone.

* `Builder.outcome` follows one builder over the lines, to its first error or to its artifact.
* `Slot.lines_outcome` says that a slot of a run comes to the outcome of its builder.
* `Run.Collects` puts outcomes together, and `Run.collects_finish` is the result for all runs.
-/

namespace JobLog

/-! ### Outcomes -/

namespace Builder

/-- What a builder makes from lines: the first error that it reports, or else its artifact. A
builder that is complete reads no more. -/
def outcome (b : Builder) (logUrl : String) (maxLineLength lastLine : Nat) :
    List (String × Nat) → Except String Artifact
  | [] => .ok ((b.finish lastLine).artifact logUrl)
  | x :: ls =>
    if b.isComplete then b.outcome logUrl maxLineLength lastLine ls
    else
      match b.line (cutLine maxLineLength x.1) x.2 with
      | (b', none) => b'.outcome logUrl maxLineLength lastLine ls
      | (_, some e) => .error e

/-- The failure in an outcome. -/
def failure? (b : Builder) : Except String Artifact → Option BuilderFailure
  | .error e => some ⟨b.name, e⟩
  | .ok _ => none

/-- The artifact in an outcome, with its name. -/
def made? (b : Builder) : Except String Artifact → Option (String × Artifact)
  | .error _ => none
  | .ok a => some (b.name, a)

@[simp] theorem name_line (b : Builder) (text : String) (n : Nat) :
    (b.line text n).1.name = b.name := by
  cases b <;> rfl

@[simp] theorem name_finish (b : Builder) (n : Nat) : (b.finish n).name = b.name := by
  cases b <;> rfl

theorem failure?_congr {b b' : Builder} (h : b'.name = b.name) : b'.failure? = b.failure? := by
  funext o
  cases o <;> simp [failure?, h]

theorem made?_congr {b b' : Builder} (h : b'.name = b.name) : b'.made? = b.made? := by
  funext o
  cases o <;> simp [made?, h]

end Builder

/-! ### Slots -/

namespace Slot

/-- The slot behind several lines. -/
def lines (maxLineLength : Nat) (ls : List (String × Nat)) (s : Slot) : Slot :=
  ls.foldl (fun s x => s.line (cutLine maxLineLength x.1) x.2) s

@[simp] theorem lines_nil (max : Nat) (s : Slot) : s.lines max [] = s := rfl

@[simp] theorem lines_cons (max : Nat) (x : String × Nat) (ls : List (String × Nat)) (s : Slot) :
    s.lines max (x :: ls) = (s.line (cutLine max x.1) x.2).lines max ls := rfl

/-- A slot that has failed stays as it is. -/
theorem lines_of_failed (max : Nat) (ls : List (String × Nat)) (b : Builder) (e : String) :
    (⟨b, some e⟩ : Slot).lines max ls = ⟨b, some e⟩ := by
  induction ls with
  | nil => rfl
  | cons x ls ih => exact ih

/-- A complete builder skips a line. -/
theorem line_of_complete {b : Builder} (h : b.isComplete) (text : String) (n : Nat) :
    (⟨b, none⟩ : Slot).line text n = ⟨b, none⟩ := by
  simp [line, h]

theorem line_of_active {b : Builder} (h : ¬ b.isComplete) (text : String) (n : Nat) :
    (⟨b, none⟩ : Slot).line text n = ⟨(b.line text n).1, (b.line text n).2⟩ := by
  simp [line, h]

/-- **A slot comes to the outcome of its builder.** -/
theorem lines_outcome (b : Builder) (logUrl : String) (max n : Nat) (ls : List (String × Nat)) :
    let s := ((⟨b, none⟩ : Slot).lines max ls).finish n
    let o := b.outcome logUrl max n ls
    s.failure = b.failure? o ∧ s.artifact logUrl = b.made? o := by
  intro s o
  induction ls generalizing b with
  | nil => simp [s, o, finish, failure, artifact, Builder.outcome, Builder.failure?, Builder.made?]
  | cons x ls ih =>
    by_cases hcomplete : b.isComplete
    · have ho : o = b.outcome logUrl max n ls := by
        simp only [o, Builder.outcome, hcomplete, if_true]
      simp only [s, ho, lines_cons, line_of_complete hcomplete]
      exact ih b
    · have hname := b.name_line (cutLine max x.1) x.2
      have ho : o = match b.line (cutLine max x.1) x.2 with
          | (b', none) => b'.outcome logUrl max n ls
          | (_, some e) => .error e := by
        simp only [o, Builder.outcome, hcomplete]
        rfl
      simp only [s, ho, lines_cons, line_of_active hcomplete]
      generalize b.line (cutLine max x.1) x.2 = next at hname ⊢
      obtain ⟨b', error?⟩ := next
      rw [← Builder.failure?_congr hname, ← Builder.made?_congr hname]
      cases error? with
      | none => exact ih b'
      | some e =>
        rw [lines_of_failed]
        exact ⟨rfl, rfl⟩

end Slot

/-! ### Runs -/

namespace Run

theorem lines_eq (r : Run) (ls : List (String × Nat)) :
    r.lines ls = { r with slots := r.slots.map (Slot.lines r.maxLineLength ls) } := by
  induction ls generalizing r with
  | nil =>
    show r = { r with slots := r.slots.map id }
    rw [List.map_id]
  | cons x ls ih =>
    show (r.line x.1 x.2).lines ls = _
    rw [ih]
    simp only [line, List.map_map]
    rfl

/-- What a run with one builder makes, by the outcome of the builder. -/
def single (logUrl : String) (b : Builder) (lastLine : Nat) :
    Except String Artifact → Except RunError ParsedLog
  | .error e => .error (.allBuildersFailed [⟨b.name, e⟩])
  | .ok a => .ok ⟨logUrl, [(b.name, a)], [], lastLine⟩

/-- A run makes the artifacts that were made, of each name the last one, and tells the failures; it
fails if there are failures only. -/
def Collects (logUrl : String) (lastLine : Nat) (failures : List BuilderFailure)
    (made : List (String × Artifact)) : Except RunError ParsedLog → Prop
  | .error e => made = [] ∧ failures ≠ [] ∧ e = .allBuildersFailed failures
  | .ok p =>
    ¬ (made = [] ∧ failures ≠ []) ∧
      p.logUrl = logUrl ∧ p.failures = failures ∧ p.lineCount = lastLine ∧
        p.artifacts.Sorted ∧ ∀ name, p.artifacts.lookup name = made.reverse.lookup name

/-- The result of a run by the outcomes of its builders. -/
theorem finish_lines (logUrl : String) (builders : List Builder) (max : Nat)
    (ls : List (String × Nat)) (n : Nat) :
    let failures := builders.filterMap fun b => b.failure? (b.outcome logUrl max n ls)
    let made := builders.filterMap fun b => b.made? (b.outcome logUrl max n ls)
    ((start logUrl builders max).lines ls).finish n =
      if made.isEmpty && !failures.isEmpty then .error (.allBuildersFailed failures)
      else .ok ⟨logUrl, Artifacts.insertAll [] made, failures, n⟩ := by
  intro failures made
  let slots := builders.map fun b => ((⟨b, none⟩ : Slot).lines max ls).finish n
  have hslots : (((start logUrl builders max).lines ls).slots.map (·.finish n)) = slots := by
    rw [lines_eq]
    simp only [start, List.map_map]
    rfl
  have hfailures : slots.filterMap (·.failure) = failures := by
    rw [List.filterMap_map]
    apply List.filterMap_congr
    intro b _
    exact (Slot.lines_outcome b logUrl max n ls).1
  have hmade : slots.filterMap (·.artifact logUrl) = made := by
    rw [List.filterMap_map]
    apply List.filterMap_congr
    intro b _
    exact (Slot.lines_outcome b logUrl max n ls).2
  have hurl : ((start logUrl builders max).lines ls).logUrl = logUrl := by
    rw [lines_eq]
    rfl
  have hempty : (Artifacts.insertAll [] made).isEmpty = made.isEmpty := by
    rw [Bool.eq_iff_iff, List.isEmpty_iff, List.isEmpty_iff]
    exact Artifacts.insertAll_eq_nil_iff made
  unfold finish
  simp only [hslots, hurl, hfailures, hmade]
  rw [← hempty]
  rfl

theorem finish_lines_single (logUrl : String) (b : Builder) (max : Nat) (ls : List (String × Nat))
    (n : Nat) :
    ((start logUrl [b] max).lines ls).finish n =
      single logUrl b n (b.outcome logUrl max n ls) := by
  rw [finish_lines]
  cases ho : b.outcome logUrl max n ls with
  | error e => simp [ho, Builder.failure?, Builder.made?, single]
  | ok a =>
    simp [ho, Builder.failure?, Builder.made?, single, Artifacts.insertAll, Artifacts.insert]

/-- **Builders do not see each other**: alone, a builder makes its outcome, and every run puts
together the outcomes of its builders, in their order. -/
theorem collects_finish (logUrl : String) (builders : List Builder) (max : Nat)
    (ls : List (String × Nat)) (n : Nat) :
    let outcome (b : Builder) := b.outcome logUrl max n ls
    (∀ b, ((start logUrl [b] max).lines ls).finish n = single logUrl b n (outcome b)) ∧
      Collects logUrl n (builders.filterMap fun b => b.failure? (outcome b))
        (builders.filterMap fun b => b.made? (outcome b))
        (((start logUrl builders max).lines ls).finish n) := by
  intro outcome
  refine ⟨fun b => finish_lines_single logUrl b max ls n, ?_⟩
  rw [finish_lines]
  generalize builders.filterMap (fun b => b.failure? (b.outcome logUrl max n ls)) = failures
  generalize builders.filterMap (fun b => b.made? (b.outcome logUrl max n ls)) = made
  by_cases hfails : made = [] ∧ failures ≠ []
  · obtain ⟨hmade, hfailures⟩ := hfails
    simp [Collects, hmade, hfailures]
  · have hok : (made.isEmpty && !failures.isEmpty) = false := by
      simpa using hfails
    rw [hok]
    refine ⟨hfails, rfl, rfl, rfl, ?_, fun name => ?_⟩
    · exact Artifacts.sorted_insertAll Artifacts.sorted_nil made
    · rw [Artifacts.lookup_insertAll, List.lookup_nil, Option.or_none]

end Run
end JobLog
