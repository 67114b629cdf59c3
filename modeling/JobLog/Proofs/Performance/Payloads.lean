import JobLog.Performance.Log
import JobLog.Proofs.Text.Pattern

/-!
# The payloads of a log

A log that is not strict keeps the valid payloads of its lines and nothing else, and no line makes
it report anything.

* `Performance.Carries` says which payloads a line carries, without any search, and
  `Performance.carries_iff` that there is one answer, which `Performance.payloadsOf` computes.
* `PerformanceLog.line_of_lenient` is the step of a line.
* `PerformanceLog.payloads_lines` is the result for all lines.
-/

namespace JobLog

namespace Performance

/-! ### Lines -/

/-- The text stands behind the first occurrence of the mark in the line, with white space around it
left out. -/
def Behind (mark line data : String) : Prop :=
  ∃ before behind, Text.Pattern.FirstOccurrence mark.toList line.toList before behind ∧
    data = String.ofList (Text.trim behind)

theorem behind?_eq_some_iff {mark line data : String} :
    behind? mark line.toList = some data ↔ Behind mark line data := by
  rw [behind?, Option.map_eq_some_iff]
  constructor
  · rintro ⟨⟨before, behind⟩, hcut, rfl⟩
    exact ⟨before, behind, Text.Pattern.cut?_text_eq_some_iff.1 hcut, rfl⟩
  · rintro ⟨before, behind, hfirst, rfl⟩
    exact ⟨(before, behind), Text.Pattern.cut?_text_eq_some_iff.2 hfirst, rfl⟩

theorem behind?_eq_none_iff {mark line : String} :
    behind? mark line.toList = none ↔ ¬ mark.toList <:+: line.toList := by
  rw [behind?, Option.map_eq_none_iff, Text.Pattern.cut?_eq_none_iff, ← Bool.not_eq_true,
    Text.Pattern.occurs_iff_infix]
  simp [Text.Pattern.text, Text.Pattern.Matches]

/-- The payloads that a line carries. A mark of a list counts only where there is no mark of a
single payload. -/
inductive Carries (line : String) : List Json → Prop
  | payload {data : String} {v : Json} : Behind "PERFHERDER_DATA:" line data →
      Json.ofText? data = some v → isValid v = true → Carries line [v]
  | noPayload {data : String} : Behind "PERFHERDER_DATA:" line data →
      (∀ v, Json.ofText? data = some v → isValid v = false) → Carries line []
  | list {data : String} {items : List Json} : ¬ "PERFHERDER_DATA:".toList <:+: line.toList →
      Behind "TALOSDATA:" line data → Json.ofText? data = some (.arr items) →
      Carries line (items.filter isValid)
  | noList {data : String} : ¬ "PERFHERDER_DATA:".toList <:+: line.toList →
      Behind "TALOSDATA:" line data → (∀ items, Json.ofText? data ≠ some (.arr items)) →
      Carries line []
  | nothing : ¬ "PERFHERDER_DATA:".toList <:+: line.toList →
      ¬ "TALOSDATA:".toList <:+: line.toList → Carries line []

/-- The payloads of a line, where errors are passed over. -/
def payloadsOf (text : String) : List Json :=
  match Found.ofLine text with
  | .nothing => []
  | .payload data => (payload? data).toOption.toList
  | .list data => ((list? data).getD []).filter isValid

section

variable {line data : String}

theorem payloadsOf_of_payload (h : Behind "PERFHERDER_DATA:" line data) :
    payloadsOf line = (payload? data).toOption.toList := by
  rw [payloadsOf, Found.ofLine, behind?_eq_some_iff.2 h]

theorem payloadsOf_of_list (hnone : ¬ "PERFHERDER_DATA:".toList <:+: line.toList)
    (h : Behind "TALOSDATA:" line data) :
    payloadsOf line = ((list? data).getD []).filter isValid := by
  rw [payloadsOf, Found.ofLine, behind?_eq_none_iff.2 hnone, behind?_eq_some_iff.2 h]

theorem payloadsOf_of_nothing (hnone : ¬ "PERFHERDER_DATA:".toList <:+: line.toList)
    (hnone' : ¬ "TALOSDATA:".toList <:+: line.toList) : payloadsOf line = [] := by
  rw [payloadsOf, Found.ofLine, behind?_eq_none_iff.2 hnone, behind?_eq_none_iff.2 hnone']

end

theorem toOption_payload? (data : String) :
    (payload? data).toOption = (Json.ofText? data).filter isValid := by
  unfold payload?
  cases Json.ofText? data with
  | none => rfl
  | some v => cases hfault : fault? v <;> simp [Option.filter, isValid, hfault, Except.toOption]

theorem list?_eq_some_iff {data : String} {items : List Json} :
    list? data = some items ↔ Json.ofText? data = some (.arr items) := by
  unfold list?
  split
  case h_1 items' hitems => simp [hitems]
  case h_2 hnone => exact ⟨nofun, fun h => absurd h (hnone items)⟩

theorem list?_eq_none_iff {data : String} :
    list? data = none ↔ ∀ items, Json.ofText? data ≠ some (.arr items) := by
  simp only [Option.eq_none_iff_forall_ne_some, Ne, list?_eq_some_iff]

theorem exists_behind {mark line : String} (h : mark.toList <:+: line.toList) :
    ∃ data, Behind mark line data := by
  cases hdata : behind? mark line.toList with
  | none => exact absurd h (behind?_eq_none_iff.1 hdata)
  | some data => exact ⟨data, behind?_eq_some_iff.1 hdata⟩

theorem carries_payloadsOf (line : String) : Carries line (payloadsOf line) := by
  by_cases hpayload : "PERFHERDER_DATA:".toList <:+: line.toList
  · obtain ⟨data, hdata⟩ := exists_behind hpayload
    rw [payloadsOf_of_payload hdata, toOption_payload?]
    cases htext : Json.ofText? data with
    | none => exact .noPayload hdata (by simp [htext])
    | some v =>
      by_cases hvalid : isValid v = true
      · rw [Option.filter_some, if_pos hvalid]
        exact .payload hdata htext hvalid
      · rw [Option.filter_some, if_neg hvalid]
        exact .noPayload hdata (by simpa [htext] using hvalid)
  by_cases hlist : "TALOSDATA:".toList <:+: line.toList
  · obtain ⟨data, hdata⟩ := exists_behind hlist
    rw [payloadsOf_of_list hpayload hdata]
    cases hitems : list? data with
    | none => exact .noList hpayload hdata (list?_eq_none_iff.1 hitems)
    | some items => exact .list hpayload hdata (list?_eq_some_iff.1 hitems)
  · rw [payloadsOf_of_nothing hpayload hlist]
    exact .nothing hpayload hlist

/-- **A line carries one row of payloads**, and it is the one that is computed. -/
theorem carries_iff {line : String} {vs : List Json} :
    Carries line vs ↔ vs = payloadsOf line := by
  refine ⟨fun h => ?_, fun h => h ▸ carries_payloadsOf line⟩
  cases h with
  | payload hdata htext hvalid =>
    rw [payloadsOf_of_payload hdata, toOption_payload?, htext, Option.filter_some, if_pos hvalid]
    rfl
  | @noPayload data hdata hinvalid =>
    rw [payloadsOf_of_payload hdata, toOption_payload?]
    cases htext : Json.ofText? data with
    | none => rfl
    | some v => simp [hinvalid v htext]
  | list hnone hdata htext =>
    rw [payloadsOf_of_list hnone hdata, list?_eq_some_iff.2 htext, Option.getD_some]
  | @noList data hnone hdata hnoList =>
    rw [payloadsOf_of_list hnone hdata, list?_eq_none_iff.2 hnoList]
    rfl
  | nothing hnone hnone' => rw [payloadsOf_of_nothing hnone hnone']

theorem isValid_of_mem_payloadsOf {line : String} {v : Json} (h : v ∈ payloadsOf line) :
    isValid v = true := by
  have hcarries := carries_payloadsOf line
  generalize payloadsOf line = vs at h hcarries
  cases hcarries with
  | payload _ _ hvalid => rwa [List.mem_singleton.1 h]
  | list => exact (List.mem_filter.1 h).2
  | noPayload | noList | nothing => exact nomatch h

end Performance

/-! ### Logs -/

namespace PerformanceLog

@[simp] theorem add_nil (l : PerformanceLog) : l.add [] = l := by
  simp [add]

/-- A log that is not strict takes the payloads of a line and reports nothing. -/
theorem line_of_lenient {l : PerformanceLog} (h : l.strict = false) (text : String) :
    l.line text = (l.add (Performance.payloadsOf text), none) := by
  unfold line Performance.payloadsOf
  cases Performance.Found.ofLine text with
  | nothing => simp
  | payload data => rfl
  | list data =>
    show l.list data = (l.add (((Performance.list? data).getD []).filter Performance.isValid), none)
    unfold list
    cases Performance.list? data with
    | none => simp [h]
    | some vs => simp [h]

/-- The log behind several lines, going on behind errors. -/
def lines (l : PerformanceLog) (ls : List String) : PerformanceLog :=
  ls.foldl (fun l text => (l.line text).1) l

theorem lines_cons (l : PerformanceLog) (text : String) (ls : List String) :
    l.lines (text :: ls) = (l.line text).1.lines ls := rfl

theorem lines_of_lenient {l : PerformanceLog} (h : l.strict = false) (ls : List String) :
    l.lines ls = l.add (ls.flatMap Performance.payloadsOf) := by
  induction ls generalizing l with
  | nil => exact l.add_nil.symm
  | cons text ls ih =>
    have hlenient : (l.add (Performance.payloadsOf text)).strict = false := h
    rw [lines_cons, line_of_lenient h, ih hlenient]
    simp [add]

/-- **The performance data of a log are the valid payloads of its lines.** No line makes the log
report anything. What is found are the payloads that the lines carry, line by line and in their
order, and each of them follows the schema. -/
theorem payloads_lines (logUrl : String) (ls : List String) :
    let l := (start false).lines ls
    (∀ text, (l.line text).2 = none) ∧
      l.data logUrl = ⟨logUrl, ls.flatMap Performance.payloadsOf⟩ ∧
      (∀ text vs, Performance.Carries text vs ↔ vs = Performance.payloadsOf text) ∧
      ∀ v ∈ (l.data logUrl).payloads, Performance.isValid v = true := by
  intro l
  have hl : l = (start false).add (ls.flatMap Performance.payloadsOf) := lines_of_lenient rfl ls
  have hlenient : l.strict = false := by
    rw [hl]
    rfl
  have hdata : l.data logUrl = ⟨logUrl, ls.flatMap Performance.payloadsOf⟩ := by
    rw [hl]
    rfl
  refine ⟨fun text => ?_, hdata, fun _ _ => Performance.carries_iff, fun v hv => ?_⟩
  · rw [line_of_lenient hlenient]
  · rw [hdata] at hv
    obtain ⟨text, -, hmem⟩ := List.mem_flatMap.1 hv
    exact Performance.isValid_of_mem_payloadsOf hmem

/-- A list keeps its valid item, and it does not count beside a single payload. -/
theorem payloads_lines_one_valid :
    let kept := "TALOSDATA: [1, [[\"f\"], [[\"s\", []]]], 2]"
    let beside := "TALOSDATA: [[[\"f\"], [[\"s\", []]]]] PERFHERDER_DATA: 3"
    ∃ v, Performance.Carries kept [v] ∧ Performance.Carries beside [] ∧
      ((start false).lines [kept, beside]).data "log" = ⟨"log", [v]⟩ ∧
      Performance.isValid v = true := by
  intro kept beside
  have hkept : (Performance.payloadsOf kept).length = 1 := by decide +kernel
  have hbeside : Performance.payloadsOf beside = [] := by
    rw [← List.length_eq_zero_iff]
    decide +kernel
  obtain ⟨v, hv⟩ := List.length_eq_one_iff.1 hkept
  obtain ⟨-, hdata, hcarries, hvalid⟩ := payloads_lines "log" [kept, beside]
  have hpayloads : [kept, beside].flatMap Performance.payloadsOf = [v] := by
    simp [hv, hbeside]
  rw [hpayloads] at hdata
  refine ⟨v, (hcarries kept _).2 hv.symm, (hcarries beside _).2 hbeside.symm, hdata, hvalid v ?_⟩
  rw [hdata]
  exact List.mem_singleton_self v

end PerformanceLog
end JobLog
