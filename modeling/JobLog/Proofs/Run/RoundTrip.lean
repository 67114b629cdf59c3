import JobLog.Proofs.Artifact
import JobLog.Proofs.Run.Artifacts
import JobLog.Proofs.Run.Cancellation

/-!
# What a run makes can be read back

The payloads of performance data are read from texts and so are canonical, and a run keeps them as
they are. So each artifact of a run, and the bug suggestions added to them, are read back from
their JSON.

* `Builder.IsCanonical` is the invariant of a builder. Lines keep it (`Builder.isCanonical_line`),
  and so every builder that is `Reached` has it.
* `Run.isCanonical_overDeliveries` is the invariant for whole runs.
* `Run.artifacts_roundTrip` is the result for all runs.
-/

namespace JobLog

/-! ### Payloads -/

namespace Performance

theorem isCanonical_payload? {data : String} {v : Json} (h : payload? data = .ok v) :
    v.IsCanonical := by
  unfold payload? at h
  split at h
  case h_1 => exact nomatch h
  case h_2 w hw =>
    split at h
    · exact nomatch h
    · obtain rfl := Except.ok.inj h
      exact Json.isCanonical_of_ofText? hw

theorem isCanonical_list? {data : String} {vs : List Json} (h : list? data = some vs) :
    ∀ v ∈ vs, v.IsCanonical := by
  unfold list? at h
  split at h
  case h_1 items hitems =>
    obtain rfl := Option.some.inj h
    exact Json.isCanonical_arr_iff.1 (Json.isCanonical_of_ofText? hitems)
  case h_2 => exact nomatch h

theorem mem_of_mem_untilFault {v : Json} {vs : List Json} (h : v ∈ (untilFault vs).1) : v ∈ vs := by
  induction vs with
  | nil => exact nomatch h
  | cons w ws ih =>
    unfold untilFault at h
    split at h
    · exact nomatch h
    · exact List.mem_cons.2 ((List.mem_cons.1 h).imp_right ih)

end Performance

namespace PerformanceLog

/-- The payloads found so far are canonical. -/
def IsCanonical (l : PerformanceLog) : Prop := ∀ v ∈ l.payloads, v.IsCanonical

theorem isCanonical_add {l : PerformanceLog} {vs : List Json} (h : l.IsCanonical)
    (hvs : ∀ v ∈ vs, v.IsCanonical) : (l.add vs).IsCanonical := by
  intro v hv
  rcases List.mem_append.1 hv with hv | hv
  · exact h v hv
  · exact hvs v hv

theorem isCanonical_list {l : PerformanceLog} (h : l.IsCanonical) (data : String) :
    (l.list data).1.IsCanonical := by
  unfold list
  split
  case h_1 => exact h
  case h_2 vs hvs =>
    have hcanonical := Performance.isCanonical_list? hvs
    split
    · exact isCanonical_add h fun v hv => hcanonical v (Performance.mem_of_mem_untilFault hv)
    · exact isCanonical_add h fun v hv => hcanonical v (List.mem_filter.1 hv).1

theorem isCanonical_line {l : PerformanceLog} (h : l.IsCanonical) (text : String) :
    (l.line text).1.IsCanonical := by
  unfold line
  split
  case h_1 => exact h
  case h_2 data _ =>
    refine isCanonical_add h fun v hv => ?_
    cases hpayload : Performance.payload? data with
    | error e => simp [hpayload, Except.toOption] at hv
    | ok w =>
      obtain rfl : v = w := by simpa [hpayload, Except.toOption] using hv
      exact Performance.isCanonical_payload? hpayload
  case h_3 data _ => exact isCanonical_list h data

end PerformanceLog

/-! ### Builders -/

namespace Builder

/-- The payloads found so far are canonical. -/
def IsCanonical : Builder → Prop
  | .performance l => l.IsCanonical
  | _ => True

theorem isCanonical_line {b : Builder} (h : b.IsCanonical) (text : String) (n : Nat) :
    (b.line text n).1.IsCanonical := by
  cases b with
  | steps l => trivial
  | jobInfo l => trivial
  | performance l => exact PerformanceLog.isCanonical_line h text

theorem isCanonical_finish {b : Builder} (h : b.IsCanonical) (n : Nat) :
    (b.finish n).IsCanonical := by
  cases b with
  | steps l => trivial
  | jobInfo l => trivial
  | performance l => exact h

/-- The builder was started, and it may have read lines and the end of a log. -/
inductive Reached : Builder → Prop
  | start (settings : Settings) (kind : BuilderKind) : Reached (.start settings kind)
  | startStrict : Reached .startStrict
  | line {b : Builder} (text : String) (n : Nat) (h : Reached b) : Reached (b.line text n).1
  | finish {b : Builder} (n : Nat) (h : Reached b) : Reached (b.finish n)

theorem reached_of_mem_kinds {settings : Settings} {kinds : List BuilderKind} :
    ∀ b ∈ kinds.map (Builder.start settings), b.Reached := by
  intro b hb
  obtain ⟨kind, -, rfl⟩ := List.mem_map.1 hb
  exact .start settings kind

theorem Reached.isCanonical {b : Builder} (h : b.Reached) : b.IsCanonical := by
  induction h with
  | start settings kind =>
    cases kind with
    | steps => trivial
    | jobInfo => trivial
    | performance => exact fun _ hv => nomatch hv
  | startStrict => exact fun _ hv => nomatch hv
  | line text n _ ih => exact isCanonical_line ih text n
  | finish n _ ih => exact isCanonical_finish ih n

theorem isCanonical_artifact {b : Builder} (h : b.IsCanonical) (logUrl : String) :
    (b.artifact logUrl).IsCanonical := by
  cases b with
  | steps l => trivial
  | jobInfo l => trivial
  | performance l => exact h

end Builder

/-! ### Slots -/

namespace Slot

theorem isCanonical_line {s : Slot} (h : s.builder.IsCanonical) (text : String) (n : Nat) :
    (s.line text n).builder.IsCanonical := by
  unfold line
  split
  · exact h
  · exact Builder.isCanonical_line h text n

theorem isCanonical_finish {s : Slot} (h : s.builder.IsCanonical) (n : Nat) :
    (s.finish n).builder.IsCanonical := by
  unfold finish
  split
  · exact h
  · exact Builder.isCanonical_finish h n

theorem isCanonical_artifact {s : Slot} (h : s.builder.IsCanonical) {logUrl : String}
    {a : String × Artifact} (ha : s.artifact logUrl = some a) : a.2.IsCanonical := by
  unfold artifact at ha
  split at ha
  · exact nomatch ha
  · obtain rfl := Option.some.inj ha
    exact Builder.isCanonical_artifact h logUrl

end Slot

/-! ### Runs -/

/-- All artifacts are canonical. -/
def Artifacts.IsCanonical (as : Artifacts) : Prop := ∀ a ∈ as, a.2.IsCanonical

theorem Artifacts.IsCanonical.insert {as : Artifacts} (h : as.IsCanonical) (name : String)
    {a : Artifact} (ha : a.IsCanonical) : (Artifacts.insert name a as).IsCanonical := by
  intro x hx
  rcases mem_insert hx with rfl | hx
  · exact ha
  · exact h x hx

namespace Run

/-- The payloads found so far are canonical. -/
def IsCanonical (r : Run) : Prop := ∀ s ∈ r.slots, s.builder.IsCanonical

theorem isCanonical_start (logUrl : String) {builders : List Builder} (max : Nat)
    (h : ∀ b ∈ builders, b.IsCanonical) : (start logUrl builders max).IsCanonical := by
  intro s hs
  obtain ⟨b, hb, rfl⟩ := List.mem_map.1 hs
  exact h b hb

theorem isCanonical_line {r : Run} (h : r.IsCanonical) (text : String) (n : Nat) :
    (r.line text n).IsCanonical := by
  intro s hs
  obtain ⟨old, hold, rfl⟩ := List.mem_map.1 hs
  exact Slot.isCanonical_line (h old hold) _ n

theorem isCanonical_finish {r : Run} (h : r.IsCanonical) {n : Nat} {p : ParsedLog}
    (hp : r.finish n = .ok p) : p.artifacts.IsCanonical := by
  simp only [finish] at hp
  split at hp
  · exact nomatch hp
  · obtain rfl := Except.ok.inj hp
    intro a ha
    have hmade := (Artifacts.mem_insertAll ha).resolve_left List.not_mem_nil
    obtain ⟨s, hs, hartifact⟩ := List.mem_filterMap.1 hmade
    obtain ⟨old, hold, rfl⟩ := List.mem_map.1 hs
    exact Slot.isCanonical_artifact (Slot.isCanonical_finish (h old hold) n) hartifact

theorem isCanonical_overDeliveries {r : Run} (h : r.IsCanonical) {count : Nat} {cancelled : Bool}
    {ds : List Delivery} {p : ParsedLog} (hp : r.overDeliveries count cancelled ds = .ok p) :
    p.artifacts.IsCanonical := by
  induction ds generalizing r count cancelled with
  | nil =>
    cases cancelled with
    | true => exact nomatch hp
    | false => exact isCanonical_finish h hp
  | cons d ds ih =>
    obtain ⟨item, seen⟩ := d
    cases cancelled with
    | true => exact nomatch hp
    | false =>
      cases item with
      | failed e => exact nomatch hp
      | line bytes number => exact ih (isCanonical_line h _ number) hp

end Run

theorem ParsedLog.isCanonical_suggest {σ : Type} {p : ParsedLog} (h : p.artifacts.IsCanonical)
    (cache : BugCache σ) (count : Nat) (m : Summarizer σ) :
    (p.suggest cache count m).1.artifacts.IsCanonical := by
  unfold suggest
  split
  · exact h
  · exact h.insert _ trivial

/-- **What a run makes is read back from its JSON.** For every source, every token and all
builders, whatever they have read before: each artifact of the result is read from its JSON as the
same kind with the same contents, and so is each one behind the bug suggestions, whatever the cache
of bugs answers. -/
theorem Run.artifacts_roundTrip {σ : Type} {logUrl : String} {builders : List Builder} {max : Nat}
    {cancelled : Bool} {s : Source} {p : ParsedLog} (hbuilders : ∀ b ∈ builders, b.Reached)
    (hp : (start logUrl builders max).overSource cancelled s = .ok p)
    (cache : BugCache σ) (count : Nat) (m : Summarizer σ) :
    (∀ a ∈ p.artifacts, Artifact.ofJson? a.2.toJson = some a.2) ∧
      ∀ a ∈ (p.suggest cache count m).1.artifacts, Artifact.ofJson? a.2.toJson = some a.2 := by
  have hstart := isCanonical_start logUrl max fun b hb => (hbuilders b hb).isCanonical
  have hmade := isCanonical_overDeliveries hstart hp
  exact ⟨fun a ha => Artifact.ofJson?_toJson (hmade a ha), fun a ha =>
    Artifact.ofJson?_toJson (ParsedLog.isCanonical_suggest hmade cache count m a ha)⟩

/-- A step that starts in a leap second and does not finish, an error, a job detail and a payload
written as lists. -/
def leapLines : List String := [
  "========= Started a (results: 0, elapsed: 2 secs) (at 2016-12-31 23:59:60.25) =========",
  "TEST-UNEXPECTED-FAIL | a.js | b",
  "TinderboxPrint: link:c:d",
  "PERFHERDER_DATA: \x7b\"suites\": [[\"s\", []]], \"framework\": [\"f\"]\x7d"]

/-- The log of these lines. -/
def leapLog : List UInt8 := leapLines.flatMap fun s => s.toUTF8.toList ++ [10]

theorem textLinesOf_leapLog : textLinesOf leapLog = leapLines.zipIdx 1 := by decide +kernel

/-- The default builders read the log in whole. -/
theorem exists_leapLog :
    ∃ p, (Run.ofKinds "log" BuilderKind.all .default).overSource false (.ofBytes leapLog) = .ok p ∧
      p.artifacts.map Prod.fst =
        [Artifacts.jobInfoName, Artifacts.performanceName, Artifacts.stepsName] := by
  have hnames : (((Run.ofKinds "log" BuilderKind.all .default).lines
        (leapLines.zipIdx 1)).finish (linesOf leapLog).length).toOption.map
          (fun p => p.artifacts.map Prod.fst) =
      some [Artifacts.jobInfoName, Artifacts.performanceName, Artifacts.stepsName] := by
    decide +kernel
  rw [Run.overSource_ofBytes, Run.overContent, textLinesOf_leapLog]
  generalize ((Run.ofKinds "log" BuilderKind.all .default).lines (leapLines.zipIdx 1)).finish
    (linesOf leapLog).length = result at hnames ⊢
  cases result with
  | error e => exact nomatch hnames
  | ok p => exact ⟨p, rfl, Option.some.inj hnames⟩

theorem Run.artifacts_roundTrip_leapLog :
    ∃ p, (ofKinds "log" BuilderKind.all .default).overSource false (.ofBytes leapLog) = .ok p ∧
      p.artifacts.map Prod.fst =
        [Artifacts.jobInfoName, Artifacts.performanceName, Artifacts.stepsName] ∧
      (∀ a ∈ p.artifacts, Artifact.ofJson? a.2.toJson = some a.2) ∧
      ∀ a ∈ (p.suggest (.inMemory .empty fun _ => false) 20 (.start ())).1.artifacts,
        Artifact.ofJson? a.2.toJson = some a.2 := by
  obtain ⟨p, hp, hnames⟩ := exists_leapLog
  exact ⟨p, hp, hnames, artifacts_roundTrip Builder.reached_of_mem_kinds hp
    (.inMemory .empty fun _ => false) 20 (.start ())⟩

end JobLog
