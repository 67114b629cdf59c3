import JobLog.Proofs.Run.CutLine
import JobLog.Proofs.Run.Made

/-!
# Performance data and the length of lines

A line with performance data is not cut, and of another line nothing is left that would be taken for
performance data. So the length that lines are cut to does not show in the performance data of a run
nor in its failures, whatever builders run beside.

* `Performance.Found.ofLine_cutLine`: a cut line carries what the line carries.
* `Builder.AlikeIn` compares two outcomes of a builder, and `Builder.alike_outcome` says that the
  outcomes for two lengths are alike.
* `Run.overDeliveries_uniform`: which lines a run reads, and whether it comes to its end, does not
  depend on the run.
* `Run.map_performance_overSource` is the result for all sources and builders.
-/

namespace JobLog

/-! ### Lines -/

namespace Performance

theorem Found.ofLine_eq_nothing_iff {line : String} :
    ofLine line = .nothing ↔
      ¬ "PERFHERDER_DATA:".toList <:+: line.toList ∧ ¬ "TALOSDATA:".toList <:+: line.toList := by
  rw [← behind?_eq_none_iff, ← behind?_eq_none_iff, ofLine]
  cases behind? "PERFHERDER_DATA:" line.toList with
  | some data => simp
  | none => cases behind? "TALOSDATA:" line.toList <;> simp

/-- A line without the marks that keep it from being cut carries nothing. -/
theorem Found.ofLine_of_not_carriesPerformance {line : String}
    (h : carriesPerformance line.toList = false) : ofLine line = .nothing := by
  have hmarks := carriesPerformance_eq_false_iff.1 h
  refine ofLine_eq_nothing_iff.2 ⟨fun hpayload => ?_, fun hlist => ?_⟩
  · exact hmarks "PERFHERDER_DATA" (by decide) (.trans (by decide) hpayload)
  · exact hmarks "TALOSDATA" (by decide) (.trans (by decide) hlist)

/-- **A cut line carries what the line carries.** -/
theorem Found.ofLine_cutLine (max : Nat) (line : String) :
    ofLine (cutLine max line) = ofLine line := by
  cases h : carriesPerformance line.toList with
  | true => rw [cutLine_of_carriesPerformance h]
  | false =>
    have hcut : carriesPerformance (cutLine max line).toList = false := by
      rw [carriesPerformance_cutLine, h]
    rw [ofLine_of_not_carriesPerformance h, ofLine_of_not_carriesPerformance hcut]

end Performance

theorem PerformanceLog.line_cutLine (l : PerformanceLog) (max : Nat) (text : String) :
    l.line (cutLine max text) = l.line text := by
  rw [line, line, Performance.Found.ofLine_cutLine]

/-! ### Builders -/

namespace Builder

variable {b : Builder} {o o' : Except String Artifact}

@[simp] theorem kind_line (b : Builder) (text : String) (n : Nat) :
    (b.line text n).1.kind = b.kind := by
  cases b <;> rfl

/-- Two outcomes of the builder are the same, or it is no builder of performance data and does not
fail in either. -/
def AlikeIn (b : Builder) (o o' : Except String Artifact) : Prop :=
  o = o' ∨ b.kind ≠ .performance ∧ ∃ a a', o = .ok a ∧ o' = .ok a'

/-- Only builders of performance data fail. -/
theorem exists_outcome_eq_ok (h : b.kind ≠ .performance) (logUrl : String) (max n : Nat)
    (ls : List (String × Nat)) : ∃ a, b.outcome logUrl max n ls = .ok a := by
  induction ls generalizing b with
  | nil => exact ⟨_, rfl⟩
  | cons x ls ih =>
    have hsilent : (b.line (cutLine max x.1) x.2).2 = none := by
      cases b with
      | performance l => exact absurd rfl h
      | steps | jobInfo => rfl
    have hline : b.line (cutLine max x.1) x.2 = ((b.line (cutLine max x.1) x.2).1, none) :=
      Prod.ext rfl hsilent
    rw [outcome]
    split
    · exact ih h
    · rw [hline]
      exact ih (by rwa [kind_line])

theorem outcome_performance_limit (l : PerformanceLog) (logUrl : String) (max max' n : Nat)
    (ls : List (String × Nat)) :
    (Builder.performance l).outcome logUrl max n ls =
      (Builder.performance l).outcome logUrl max' n ls := by
  induction ls generalizing l with
  | nil => rfl
  | cons x ls ih =>
    simp only [outcome, isComplete, line, PerformanceLog.line_cutLine]
    cases (l.line x.1).2 with
    | none => exact ih _
    | some e => rfl

/-- **The outcomes of a builder for two lengths are alike.** -/
theorem alike_outcome (b : Builder) (logUrl : String) (max max' n : Nat)
    (ls : List (String × Nat)) :
    b.AlikeIn (b.outcome logUrl max n ls) (b.outcome logUrl max' n ls) := by
  by_cases h : b.kind = .performance
  · left
    cases b with
    | performance l => exact outcome_performance_limit l logUrl max max' n ls
    | steps | jobInfo => exact nomatch h
  · obtain ⟨a, ha⟩ := exists_outcome_eq_ok h logUrl max n ls
    obtain ⟨a', ha'⟩ := exists_outcome_eq_ok h logUrl max' n ls
    exact .inr ⟨h, a, a', ha, ha'⟩

theorem AlikeIn.failure?_eq (h : b.AlikeIn o o') : b.failure? o = b.failure? o' := by
  rcases h with rfl | ⟨-, a, a', rfl, rfl⟩
  · rfl
  · rfl

theorem AlikeIn.made?_eq_none_iff (h : b.AlikeIn o o') : b.made? o = none ↔ b.made? o' = none := by
  rcases h with rfl | ⟨-, a, a', rfl, rfl⟩
  · rfl
  · simp [made?]

/-- What is made of performance data is the same. -/
theorem AlikeIn.filter_made? (h : b.AlikeIn o o') :
    (b.made? o).filter (·.1 = Artifacts.performanceName) =
      (b.made? o').filter (·.1 = Artifacts.performanceName) := by
  rcases h with rfl | ⟨hkind, a, a', rfl, rfl⟩
  · rfl
  · have hname : b.name ≠ Artifacts.performanceName := fun hname =>
      hkind (BuilderKind.artifactName_injective hname)
    simp [made?, Option.filter_some, hname]

end Builder

/-! ### Runs -/

/-- What a parsed log tells of performance data: the artifact, and the failures. Only builders of
performance data fail. -/
def ParsedLog.performance (p : ParsedLog) : Option Artifact × List BuilderFailure :=
  (p.artifacts.lookup Artifacts.performanceName, p.failures)

namespace Run

theorem lookup_insertAll_performance (made : List (String × Artifact)) :
    (Artifacts.insertAll [] made).lookup Artifacts.performanceName =
      (made.filter (·.1 = Artifacts.performanceName)).reverse.lookup Artifacts.performanceName := by
  rw [Artifacts.lookup_insertAll, List.lookup_nil, Option.or_none, ← List.filter_reverse,
    Keyed.lookup_filter (fun _ => decide_eq_true rfl)]

/-- The length that lines are cut to does not show at the end of a log. -/
theorem map_performance_finish (logUrl : String) (builders : List Builder) (max max' : Nat)
    (ls : List (String × Nat)) (n : Nat) :
    (((start logUrl builders max).lines ls).finish n).map ParsedLog.performance =
      (((start logUrl builders max').lines ls).finish n).map ParsedLog.performance := by
  have halike (b : Builder) := b.alike_outcome logUrl max max' n ls
  have hfailures : builders.filterMap (fun b => b.failure? (b.outcome logUrl max n ls)) =
      builders.filterMap fun b => b.failure? (b.outcome logUrl max' n ls) :=
    List.filterMap_congr fun b _ => (halike b).failure?_eq
  have hnone : (builders.filterMap fun b => b.made? (b.outcome logUrl max n ls)).isEmpty =
      (builders.filterMap fun b => b.made? (b.outcome logUrl max' n ls)).isEmpty := by
    rw [Bool.eq_iff_iff, List.isEmpty_iff, List.isEmpty_iff, List.filterMap_eq_nil_iff,
      List.filterMap_eq_nil_iff]
    exact forall₂_congr fun b _ => (halike b).made?_eq_none_iff
  have hmade : (builders.filterMap fun b => b.made? (b.outcome logUrl max n ls)).filter
        (·.1 = Artifacts.performanceName) =
      (builders.filterMap fun b => b.made? (b.outcome logUrl max' n ls)).filter
        (·.1 = Artifacts.performanceName) := by
    rw [List.filter_filterMap, List.filter_filterMap]
    exact List.filterMap_congr fun b _ => (halike b).filter_made?
  rw [finish_lines, finish_lines, hfailures, hnone]
  split
  · rfl
  · simp only [Except.map, ParsedLog.performance, lookup_insertAll_performance, hmade]

/-- Which lines are read, and whether the end of the log is reached, does not depend on the run. -/
theorem overDeliveries_uniform (count : Nat) (cancelled : Bool) (ds : List Delivery) :
    (∃ e, ∀ r : Run, r.overDeliveries count cancelled ds = .error e) ∨
      ∃ ls n, ∀ r : Run, r.overDeliveries count cancelled ds = (r.lines ls).finish n := by
  induction ds generalizing count cancelled with
  | nil =>
    cases cancelled with
    | true => exact .inl ⟨.cancelled, fun _ => rfl⟩
    | false => exact .inr ⟨[], count, fun _ => rfl⟩
  | cons d ds ih =>
    obtain ⟨item, seen⟩ := d
    cases cancelled with
    | true => exact .inl ⟨.cancelled, fun _ => rfl⟩
    | false =>
      cases item with
      | failed e => exact .inl ⟨.ofRead e, fun _ => rfl⟩
      | line bytes number =>
        let text := String.ofList (Text.Utf8.decode bytes)
        rcases ih number seen with ⟨e, he⟩ | ⟨ls, n, hls⟩
        · exact .inl ⟨e, fun r => he (r.line text number)⟩
        · exact .inr ⟨(text, number) :: ls, n, fun r => hls (r.line text number)⟩

/-- **Performance data do not depend on the length of lines.** For every source, whatever it fails
with and whenever the run is cancelled, and for all builders, whatever they have read before and
strict or not: two runs that cut lines to different lengths both succeed or both fail with the same
error. If they succeed, both have the same performance data or none, and the same failures. -/
theorem map_performance_overSource (logUrl : String) (builders : List Builder) (max max' : Nat)
    (cancelled : Bool) (s : Source) :
    ((start logUrl builders max).overSource cancelled s).map ParsedLog.performance =
      ((start logUrl builders max').overSource cancelled s).map ParsedLog.performance := by
  unfold overSource
  rcases overDeliveries_uniform 0 cancelled (s.deliveries cancelled) with ⟨e, he⟩ | ⟨ls, n, hls⟩
  · rw [he, he]
  · rw [hls, hls]
    exact map_performance_finish logUrl builders max max' ls n

end Run
end JobLog
