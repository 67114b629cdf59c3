import JobLog.Proofs.Performance.Payloads
import Mathlib.Data.List.Basic

/-!
# Strict logs

A strict log breaks a list off at the first item with a fault and reports the fault, where another
log passes over the item. So a strict log keeps some of the payloads that the other one keeps, and
all of them as long as it reports nothing.

* `Performance.untilFault_of_valid` and `Performance.untilFault_append` say where a list breaks off.
* `Performance.taken` is what a strict log takes from a line, and what it reports.
* `Performance.Refuses` says which lines it reports something for, without any search, and
  `Performance.taken_eq_some_iff` that these are the ones.
* `PerformanceLog.line_of_strict` is the step of a line, `PerformanceLog.strict_lines` compares the
  two logs behind any lines.
-/

namespace JobLog

namespace Performance

/-! ### Lists that break off -/

section

variable {v : Json} {vs before behind : List Json} {fault : Fault}

theorem isValid_iff_fault? : isValid v = true ↔ fault? v = none :=
  Option.isNone_iff_eq_none

theorem untilFault_cons (h : fault? v = none) (vs : List Json) :
    untilFault (v :: vs) = (v :: (untilFault vs).1, (untilFault vs).2) := by
  rw [untilFault, h]

theorem untilFault_of_valid (h : ∀ v ∈ vs, isValid v = true) : untilFault vs = (vs, none) := by
  induction vs with
  | nil => rfl
  | cons v vs ih =>
    obtain ⟨hv, hvs⟩ := List.forall_mem_cons.1 h
    rw [untilFault_cons (isValid_iff_fault?.1 hv), ih hvs]

theorem untilFault_append (hbefore : ∀ w ∈ before, isValid w = true)
    (hfault : fault? v = some fault) (behind : List Json) :
    untilFault (before ++ v :: behind) = (before, some (.schema fault)) := by
  induction before with
  | nil => rw [List.nil_append, untilFault, hfault]
  | cons w before ih =>
    obtain ⟨hw, hrest⟩ := List.forall_mem_cons.1 hbefore
    rw [List.cons_append, untilFault_cons (isValid_iff_fault?.1 hw), ih hrest]

/-- A list is valid, or it has a first item with a fault. -/
theorem valid_or_exists_fault (vs : List Json) :
    (∀ v ∈ vs, isValid v = true) ∨
      ∃ before v behind fault, vs = before ++ v :: behind ∧ (∀ w ∈ before, isValid w = true) ∧
        fault? v = some fault := by
  cases hfind : vs.find? (!isValid ·) with
  | none =>
    left
    simpa using List.find?_eq_none.1 hfind
  | some v =>
    right
    obtain ⟨hv, before, behind, hvs, hbefore⟩ := List.find?_eq_some_iff_append.1 hfind
    have hfault : fault? v ≠ none := fun hnone => by simp [isValid, hnone] at hv
    obtain ⟨fault, hfault⟩ := Option.ne_none_iff_exists'.1 hfault
    exact ⟨before, v, behind, fault, hvs, by simpa using hbefore, hfault⟩

/-- The items before the first fault are some of the valid ones. -/
theorem untilFault_prefix (vs : List Json) : (untilFault vs).1 <+: vs.filter isValid := by
  rcases valid_or_exists_fault vs with hvalid | ⟨before, v, behind, fault, rfl, hbefore, hfault⟩
  · refine ⟨[], ?_⟩
    rw [untilFault_of_valid hvalid, List.filter_eq_self.2 hvalid, List.append_nil]
  · rw [untilFault_append hbefore hfault, List.filter_append, List.filter_eq_self.2 hbefore]
    exact List.prefix_append before _

end

/-! ### Lines -/

/-- What a strict log takes from a line, and the error it reports. -/
def taken (text : String) : List Json × Option LineError :=
  match Found.ofLine text with
  | .nothing => ([], none)
  | .payload data => ((payload? data).toOption.toList, none)
  | .list data => (list? data).elim ([], some (@LineError.badJson data)) untilFault

/-- A strict log refuses a line for an error, and takes some payloads from it: behind the mark of a
list, which counts only where there is no mark of a single payload, stands no list, or one with an
item that does not follow the schema. -/
inductive Refuses (line : String) : List Json → LineError → Prop
  | noList {data : String} : ¬ "PERFHERDER_DATA:".toList <:+: line.toList →
      Behind "TALOSDATA:" line data → (∀ items, Json.ofText? data ≠ some (.arr items)) →
      Refuses line [] (@LineError.badJson data)
  | badItem {data : String} {before behind : List Json} {v : Json} {fault : Fault} :
      ¬ "PERFHERDER_DATA:".toList <:+: line.toList → Behind "TALOSDATA:" line data →
      Json.ofText? data = some (.arr (before ++ v :: behind)) →
      (∀ w ∈ before, isValid w = true) → fault? v = some fault →
      Refuses line before (.schema fault)

section

variable {line data : String}

theorem taken_of_payload (h : Behind "PERFHERDER_DATA:" line data) :
    taken line = ((payload? data).toOption.toList, none) := by
  rw [taken, Found.ofLine, behind?_eq_some_iff.2 h]

theorem taken_of_list (hnone : ¬ "PERFHERDER_DATA:".toList <:+: line.toList)
    (h : Behind "TALOSDATA:" line data) :
    taken line = (list? data).elim ([], some (@LineError.badJson data)) untilFault := by
  rw [taken, Found.ofLine, behind?_eq_none_iff.2 hnone, behind?_eq_some_iff.2 h]

theorem taken_of_nothing (hnone : ¬ "PERFHERDER_DATA:".toList <:+: line.toList)
    (hnone' : ¬ "TALOSDATA:".toList <:+: line.toList) : taken line = ([], none) := by
  rw [taken, Found.ofLine, behind?_eq_none_iff.2 hnone, behind?_eq_none_iff.2 hnone']

end

/-- A line is taken in whole, or it is refused. -/
theorem taken_cases (line : String) :
    taken line = (payloadsOf line, none) ∨
      ∃ vs e, taken line = (vs, some e) ∧ Refuses line vs e ∧ vs <+: payloadsOf line := by
  by_cases hpayload : "PERFHERDER_DATA:".toList <:+: line.toList
  · obtain ⟨data, hdata⟩ := exists_behind hpayload
    exact .inl (by rw [taken_of_payload hdata, payloadsOf_of_payload hdata])
  by_cases hlist : "TALOSDATA:".toList <:+: line.toList
  · obtain ⟨data, hdata⟩ := exists_behind hlist
    rw [taken_of_list hpayload hdata, payloadsOf_of_list hpayload hdata]
    cases hitems : list? data with
    | none =>
      exact .inr ⟨[], @LineError.badJson data, rfl,
        .noList hpayload hdata (list?_eq_none_iff.1 hitems), List.nil_prefix⟩
    | some items =>
      rcases valid_or_exists_fault items with hvalid | ⟨before, v, behind, fault, rfl, hbefore, hv⟩
      · left
        rw [Option.elim_some, Option.getD_some, untilFault_of_valid hvalid,
          List.filter_eq_self.2 hvalid]
      · have huntil := untilFault_append hbefore hv behind
        refine .inr ⟨before, .schema fault, huntil,
          .badItem hpayload hdata (list?_eq_some_iff.1 hitems) hbefore hv, ?_⟩
        have hprefix := untilFault_prefix (before ++ v :: behind)
        rwa [huntil] at hprefix
  · exact .inl (by rw [taken_of_nothing hpayload hlist, payloadsOf_of_nothing hpayload hlist])

/-- **A strict log reports something for the lines that it refuses**, and for no others. -/
theorem taken_eq_some_iff {line : String} {vs : List Json} {e : LineError} :
    taken line = (vs, some e) ↔ Refuses line vs e := by
  constructor
  · intro h
    rcases taken_cases line with hall | ⟨vs', e', htaken, hrefuses, -⟩
    · exact nomatch h.symm.trans hall
    · obtain ⟨rfl, ⟨⟩⟩ := Prod.mk.inj (h.symm.trans htaken)
      exact hrefuses
  · rintro (⟨hnone, hdata, hnoList⟩ | ⟨hnone, hdata, hitems, hbefore, hv⟩)
    · rw [taken_of_list hnone hdata, list?_eq_none_iff.2 hnoList]
      rfl
    · rw [taken_of_list hnone hdata, list?_eq_some_iff.2 hitems]
      exact untilFault_append hbefore hv _

end Performance

namespace PerformanceLog

/-! ### Logs -/

/-- A strict log takes the payloads of a line before the error that it reports. -/
theorem line_of_strict {l : PerformanceLog} (h : l.strict = true) (text : String) :
    l.line text = (l.add (Performance.taken text).1, (Performance.taken text).2) := by
  unfold line Performance.taken
  cases Performance.Found.ofLine text with
  | nothing => simp
  | payload data => rfl
  | list data =>
    show l.list data = _
    unfold list
    cases hlist : Performance.list? data with
    | none => simp [h, hlist]
    | some vs => simp [h, hlist]

theorem lines_of_strict {l : PerformanceLog} (h : l.strict = true) (ls : List String) :
    l.lines ls = l.add (ls.flatMap fun text => (Performance.taken text).1) := by
  induction ls generalizing l with
  | nil => exact l.add_nil.symm
  | cons text ls ih =>
    have hstrict : (l.add (Performance.taken text).1).strict = true := h
    rw [lines_cons, line_of_strict h, ih hstrict]
    simp [add]

theorem payloads_strict (ls : List String) :
    ((start true).lines ls).payloads = ls.flatMap fun text => (Performance.taken text).1 := by
  rw [lines_of_strict rfl]
  rfl

theorem payloads_lenient (ls : List String) :
    ((start false).lines ls).payloads = ls.flatMap Performance.payloadsOf := by
  rw [lines_of_lenient rfl]
  rfl

theorem line_lines_strict (ls : List String) (text : String) :
    ((start true).lines ls).line text =
      (((start true).lines ls).add (Performance.taken text).1, (Performance.taken text).2) := by
  refine line_of_strict ?_ text
  rw [lines_of_strict rfl]
  rfl

theorem sublist_strict (ls : List String) :
    ((start true).lines ls).payloads.Sublist ((start false).lines ls).payloads := by
  rw [payloads_strict, payloads_lenient]
  induction ls with
  | nil => exact .slnil
  | cons text ls ih =>
    rw [List.flatMap_cons, List.flatMap_cons]
    refine List.Sublist.append ?_ ih
    rcases Performance.taken_cases text with hall | ⟨vs, e, htaken, -, hprefix⟩
    · rw [hall]
    · rw [htaken]
      exact hprefix.sublist

/-- Where a strict log reports nothing, it keeps what the other one keeps. -/
theorem eq_strict_of_silent {ls : List String}
    (h : ∀ text ∈ ls, (Performance.taken text).2 = none) :
    ((start true).lines ls).payloads = ((start false).lines ls).payloads := by
  rw [payloads_strict, payloads_lenient]
  refine List.flatMap_congr fun text htext => ?_
  rcases Performance.taken_cases text with hall | ⟨vs, e, htaken, -, -⟩
  · rw [hall]
  · have hsilent := h text htext
    rw [htaken] at hsilent
    exact nomatch hsilent

/-- **A strict log and one that is not agree up to the errors.** Behind any lines, whatever errors
were reported before: the payloads of the strict log are some of those of the other one, in their
order, and all of them follow the schema. They are the same if nothing was reported for any of the
lines. The strict log reports an error for the lines that it refuses and for no others, and adds
what stands before the error. -/
theorem strict_lines (ls : List String) :
    let strict : PerformanceLog := (start true).lines ls
    let lenient : PerformanceLog := (start false).lines ls
    strict.payloads.Sublist lenient.payloads ∧
      (∀ v ∈ strict.payloads ++ lenient.payloads, Performance.isValid v = true) ∧
      ((∀ before text, before ++ [text] <+: ls → (((start true).lines before).line text).2 = none) →
        strict.payloads = lenient.payloads) ∧
      ∀ text e l, strict.line text = (l, some e) ↔
        ∃ vs, Performance.Refuses text vs e ∧ l = strict.add vs := by
  intro strict lenient
  have hsublist : strict.payloads.Sublist lenient.payloads := sublist_strict ls
  have hvalid : ∀ v ∈ lenient.payloads, Performance.isValid v = true := by
    intro v hv
    rw [payloads_lenient] at hv
    obtain ⟨text, -, hmem⟩ := List.mem_flatMap.1 hv
    exact Performance.isValid_of_mem_payloadsOf hmem
  refine ⟨hsublist, fun v hv => ?_, fun hsilent => ?_, fun text e l => ?_⟩
  · rcases List.mem_append.1 hv with hv | hv
    · exact hvalid v (hsublist.subset hv)
    · exact hvalid v hv
  · refine eq_strict_of_silent fun text htext => ?_
    obtain ⟨before, behind, rfl⟩ := List.append_of_mem htext
    have hline := hsilent before text ⟨behind, by simp⟩
    rwa [line_lines_strict] at hline
  · rw [line_lines_strict]
    constructor
    · intro h
      obtain ⟨rfl, herror⟩ := Prod.mk.inj h
      exact ⟨_, Performance.taken_eq_some_iff.1 (Prod.ext rfl herror), rfl⟩
    · rintro ⟨vs, hrefuses, rfl⟩
      rw [Performance.taken_eq_some_iff.2 hrefuses]

/-- A single payload that is wrong and a list without a fault. -/
def calmLines : List String :=
  ["PERFHERDER_DATA: 3", "TALOSDATA: [[[\"f\"], [[\"s\", []]]]]"]

/-- A list with a fault between two payloads. -/
def brokenList : String := "TALOSDATA: [[[\"f\"], [[\"s\", []]]], 1, [[\"g\"], [[\"t\", []]]]]"

/-- Both logs keep the payload of the calm lines. Of two payloads in a list with a fault between
them, the strict log keeps the first one. -/
theorem strict_lines_brokenList :
    let strict := (start true).lines calmLines
    let lenient := (start false).lines calmLines
    (∀ before text, before ++ [text] <+: calmLines →
        (((start true).lines before).line text).2 = none) ∧
      strict.payloads = lenient.payloads ∧ strict.payloads.length = 1 ∧
      (∃ v e, Performance.Refuses brokenList [v] e ∧
        strict.line brokenList = (strict.add [v], some e)) ∧
      (Performance.payloadsOf brokenList).length = 2 := by
  intro strict lenient
  have hquiet : ∀ text ∈ calmLines, (Performance.taken text).2.isNone = true := by decide +kernel
  have hsilent : ∀ before text, before ++ [text] <+: calmLines →
      (((start true).lines before).line text).2 = none := by
    intro before text hprefix
    have hmem : text ∈ calmLines := hprefix.subset (by simp)
    rw [line_lines_strict]
    exact Option.isNone_iff_eq_none.1 (hquiet text hmem)
  have hone : (calmLines.flatMap fun text => (Performance.taken text).1).length = 1 := by
    decide +kernel
  have hbefore : (Performance.taken brokenList).1.length = 1 := by decide +kernel
  have hreported : (Performance.taken brokenList).2.isSome = true := by decide +kernel
  obtain ⟨v, hv⟩ := List.length_eq_one_iff.1 hbefore
  obtain ⟨e, he⟩ := Option.isSome_iff_exists.1 hreported
  obtain ⟨-, -, hsame, hreports⟩ := strict_lines calmLines
  have hrefuses := Performance.taken_eq_some_iff.1 (Prod.ext hv he)
  refine ⟨hsilent, hsame hsilent, ?_, ⟨v, e, hrefuses, ?_⟩, by decide +kernel⟩
  · rw [payloads_strict]
    exact hone
  · exact (hreports brokenList e _).2 ⟨[v], hrefuses, rfl⟩

end PerformanceLog
end JobLog
