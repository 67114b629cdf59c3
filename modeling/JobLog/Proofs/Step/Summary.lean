import JobLog.Proofs.Step.Decode
import JobLog.Proofs.Step.Scan

/-!
# What a log tells

A log is told by the lines it is made of: which of them are markers is a matter of their text, and
everything that its summary keeps is found in the markers and in the other lines.

* `Scan` goes through the lines with a flag that says whether a marked step is open. It exists for
  all lines, and what it collects is what the definitions of `Scan.lean` compute.
* `ErrorLine.Reports` is an error without the white space at its end, and `Marked` are the steps of
  markers that open and close in turn.
* `StepLog.summary_scan` is the summary of every log.
-/

namespace JobLog

/-- The kind of markers that count, by whether a marked step is open. -/
def MarkerKind.due (isOpen : Bool) : MarkerKind := if isOpen then .finished else .started

/-! ### Scans -/

/-- A scan of lines. A marker of the kind that is due turns the flag; every other line goes to the
classifier. The markers and the errors are collected with their line numbers. -/
inductive Scan : Bool → Classifier → List (String × Nat) → List (MarkerText × Nat) →
    List (Nat × String) → Prop
  | nil (isOpen : Bool) (k : Classifier) : Scan isOpen k [] [] []
  | marker {isOpen : Bool} {k : Classifier} {text : String} {n : Nat} {ls : List (String × Nat)}
      {ms : List (MarkerText × Nat)} {es : List (Nat × String)} (t : MarkerText)
      (htext : t.line (.due isOpen) = text) (h : Scan (!isOpen) k ls ms es) :
      Scan isOpen k ((text, n) :: ls) ((t, n) :: ms) es
  | quiet {isOpen : Bool} {k : Classifier} {text : String} {n : Nat} {ls : List (String × Nat)}
      {ms : List (MarkerText × Nat)} {es : List (Nat × String)}
      (htext : ∀ t : MarkerText, t.line (.due isOpen) ≠ text) (herror : k.error? text = none)
      (h : Scan isOpen (k.after text) ls ms es) : Scan isOpen k ((text, n) :: ls) ms es
  | error {isOpen : Bool} {k : Classifier} {text : String} {n : Nat} {ls : List (String × Nat)}
      {ms : List (MarkerText × Nat)} {es : List (Nat × String)} (e : String)
      (htext : ∀ t : MarkerText, t.line (.due isOpen) ≠ text) (herror : k.error? text = some e)
      (h : Scan isOpen (k.after text) ls ms es) : Scan isOpen k ((text, n) :: ls) ms ((n, e) :: es)

theorem markerAt?_line (isOpen : Bool) (t : MarkerText) :
    markerAt? isOpen (t.line (.due isOpen)) = some t.marker :=
  Marker.read?_line (.due isOpen) t

theorem markerAt?_eq_none_iff {isOpen : Bool} {text : String} :
    markerAt? isOpen text = none ↔ ∀ t : MarkerText, t.line (.due isOpen) ≠ text := by
  constructor
  · rintro h t rfl
    rw [markerAt?_line] at h
    cases h
  · intro h
    rw [Option.eq_none_iff_forall_ne_some]
    intro m hm
    obtain ⟨t, ht⟩ := Marker.exists_of_read? hm
    exact h t ht

/-- All lines are scanned. -/
theorem exists_scan (isOpen : Bool) (k : Classifier) (ls : List (String × Nat)) :
    ∃ ms es, Scan isOpen k ls ms es := by
  induction ls generalizing isOpen k with
  | nil => exact ⟨[], [], .nil isOpen k⟩
  | cons x ls ih =>
    obtain ⟨text, n⟩ := x
    by_cases hmarker : ∃ t : MarkerText, t.line (.due isOpen) = text
    · obtain ⟨t, ht⟩ := hmarker
      obtain ⟨ms, es, h⟩ := ih (!isOpen) k
      exact ⟨_, es, .marker t ht h⟩
    · have htext := not_exists.1 hmarker
      obtain ⟨ms, es, h⟩ := ih isOpen (k.after text)
      cases herror : k.error? text with
      | none => exact ⟨ms, es, .quiet htext herror h⟩
      | some e => exact ⟨ms, _, .error e htext herror h⟩

namespace Scan

variable {isOpen : Bool} {k : Classifier} {ls : List (String × Nat)}
  {ms : List (MarkerText × Nat)} {es : List (Nat × String)}

/-- The markers of a scan. -/
theorem markers_eq (h : Scan isOpen k ls ms es) :
    markers isOpen ls = ms.map fun x => (x.1.marker, x.2) := by
  induction h with
  | nil => rfl
  | marker t htext h ih =>
    subst htext
    simp only [markers, markerAt?_line, ih, List.map_cons]
  | quiet htext herror h ih => simp only [markers, markerAt?_eq_none_iff.2 htext, ih]
  | error e htext herror h ih => simp only [markers, markerAt?_eq_none_iff.2 htext, ih]

/-- The errors of a scan. -/
theorem errorsIn_eq (h : Scan isOpen k ls ms es) :
    k.errorsIn (ordinaryLines isOpen ls) = es.map fun x => .ofLine x.1 x.2 := by
  induction h with
  | nil => rfl
  | marker t htext h ih =>
    subst htext
    simp only [ordinaryLines, markerAt?_line, ih]
  | quiet htext herror h ih =>
    simp only [ordinaryLines, markerAt?_eq_none_iff.2 htext, Classifier.errorsIn, herror, ih,
      Option.map_none, Option.toList_none, List.nil_append]
  | error e htext herror h ih =>
    simp only [ordinaryLines, markerAt?_eq_none_iff.2 htext, Classifier.errorsIn, herror, ih,
      Option.map_some, Option.toList_some, List.singleton_append, List.map_cons]

end Scan

/-! ### Errors -/

/-- The error is a report: its number, and its text without the white space at its end. -/
structure ErrorLine.Reports (x : Nat × String) (e : ErrorLine) : Prop where
  number_eq : e.number = x.1
  trimmed : ∃ blanks : List Char, (∀ c ∈ blanks, Text.isBlank c = true) ∧
    x.2.toList = e.text.toList ++ blanks
  last : ∀ c ∈ e.text.toList.getLast?, Text.isBlank c = false

theorem ErrorLine.reports_ofLine (x : Nat × String) : Reports x (.ofLine x.1 x.2) where
  number_eq := rfl
  trimmed := by
    refine ⟨(x.2.toList.reverse.takeWhile Text.isBlank).reverse, fun c hc => ?_, ?_⟩
    · exact List.mem_takeWhile_imp (List.mem_reverse.1 hc)
    · rw [ofLine, String.toList_ofList, Text.trimEnd, ← List.reverse_append,
        List.takeWhile_append_dropWhile, List.reverse_reverse]
  last := by
    rw [ofLine, String.toList_ofList, Text.trimEnd, List.getLast?_reverse]
    exact fun c hc => Text.head?_dropWhile_run c hc

/-! ### Marked steps -/

/-- The step starts with the marker. -/
structure Step.StartsWith (s : Step) (t : MarkerText) (n : Nat) : Prop where
  name_eq : s.name = String.ofList t.name
  firstLine_eq : s.firstLine = n
  started?_iff : ∀ a, s.started? = some a ↔ TimeTells t.time a

/-- The step ends with the marker. -/
structure Step.EndsWith (s : Step) (t : MarkerText) (n : Nat) : Prop where
  lastLine_eq : s.lastLine = n
  finished?_iff : ∀ a, s.finished? = some a ↔ TimeTells t.time a
  seconds : SecondsBetween s.started? s.finished? s.seconds?
  result : CodeTells t.code s.result

/-- The step ends with the log. -/
structure Step.EndsAt (s : Step) (n : Nat) : Prop where
  lastLine_eq : s.lastLine = n
  finished?_eq : s.finished? = none
  seconds?_eq : s.seconds? = none
  result_eq : s.result = .unknown

/-- The steps of markers that open and close in turn. -/
inductive Marked (endLine : Nat) : List (MarkerText × Nat) → List Step → Prop
  | nil : Marked endLine [] []
  | unclosed {t : MarkerText} {n : Nat} {s : Step} (hstart : s.StartsWith t n)
      (hend : s.EndsAt endLine) : Marked endLine [(t, n)] [s]
  | cons {t t' : MarkerText} {n n' : Nat} {s : Step} {ms : List (MarkerText × Nat)}
      {ss : List Step} (hstart : s.StartsWith t n) (hend : s.EndsWith t' n')
      (h : Marked endLine ms ss) : Marked endLine ((t, n) :: (t', n') :: ms) (s :: ss)

theorem MarkerText.timestamp?_eq_some_iff (t : MarkerText) (a : Timestamp) :
    t.marker.timestamp? = some a ↔ TimeTells t.time a :=
  t.time_text.ofChars?_eq_some_iff

/-- A step starts with the marker that opens its span. -/
theorem Step.startsWith_of_span_eq {s : Step} {t : MarkerText} {n m : Nat}
    {finished? : Option Timestamp} {result : StepResult}
    (h : s.span = (StepSpan.opened t.marker n).closed m finished? result) : s.StartsWith t n := by
  obtain ⟨hname, hfirst, hstarted, -⟩ := StepSpan.mk.inj h
  refine ⟨hname, hfirst, fun a => ?_⟩
  rw [hstarted]
  exact t.timestamp?_eq_some_iff a

/-- A step ends with the marker that closes its span. -/
theorem Step.endsWith_of_span_eq {s : Step} {t t' : MarkerText} {n n' : Nat}
    (h : s.span = (StepSpan.opened t.marker n).closed n' t'.marker.timestamp? t'.marker.result) :
    s.EndsWith t' n' := by
  obtain ⟨-, -, hstarted, hlast, hfinished, hseconds, hresult⟩ := StepSpan.mk.inj h
  refine ⟨hlast, fun a => ?_, ?_, ?_⟩
  · rw [hfinished]
    exact t'.timestamp?_eq_some_iff a
  · rw [hstarted, hfinished, hseconds]
    exact secondsBetween_duration? t.time_text t'.time_text
  · rw [hresult]
    exact t'.codeTells

/-- A step ends with the log where the log closes its span. -/
theorem Step.endsAt_of_span_eq {s : Step} {t : MarkerText} {n endLine : Nat}
    (h : s.span = (StepSpan.opened t.marker n).closed endLine none .unknown) :
    s.EndsAt endLine := by
  obtain ⟨-, -, -, hlast, hfinished, hseconds, hresult⟩ := StepSpan.mk.inj h
  refine ⟨hlast, hfinished, ?_, hresult⟩
  rw [hseconds, StepSpan.opened]
  cases t.marker.timestamp? <;> rfl

/-- The steps with the spans that markers make. -/
theorem marked_of_spans {endLine : Nat} : ∀ {ms : List (MarkerText × Nat)} {ss : List Step},
    ss.map Step.span = spansFrom endLine none (ms.map fun x => (x.1.marker, x.2)) →
      Marked endLine ms ss
  | [], ss, h => by
    obtain rfl := List.map_eq_nil_iff.1 h
    exact .nil
  | [(t, n)], ss, h => by
    obtain ⟨s, rest, rfl, hs, hrest⟩ := List.map_eq_cons_iff.1 h
    obtain rfl := List.map_eq_nil_iff.1 hrest
    exact .unclosed (Step.startsWith_of_span_eq hs) (Step.endsAt_of_span_eq hs)
  | (t, n) :: (t', n') :: ms, ss, h => by
    obtain ⟨s, rest, rfl, hs, hrest⟩ := List.map_eq_cons_iff.1 h
    exact .cons (Step.startsWith_of_span_eq hs) (Step.endsWith_of_span_eq hs)
      (marked_of_spans hrest)

/-! ### The summary -/

namespace StepLog

/-- **The summary of every log, by a scan of its lines.** All lines can be scanned, and by every
scan the errors are the first of those that are found, up to the cap, it is told whether there were
more, and the steps with a name are those of the markers, where the end of the log closes a step
that no marker closes. -/
theorem summary_scan (cap : Nat) (ls : List (String × Nat)) (n : Nat) :
    let data := (((start cap).lines ls).finish n).data
    (∃ ms es, Scan false .start ls ms es) ∧
    ∀ ms es, Scan false .start ls ms es →
      List.Forall₂ ErrorLine.Reports (es.take cap) data.errors ∧
      (data.truncated = true ↔ cap < es.length) ∧
      Marked (max n ((ls.getLast?.map Prod.snd).getD 0)) ms
        (data.steps.filter fun s => s.name ≠ "") := by
  intro data
  refine ⟨exists_scan false .start ls, fun ms es hscan => ?_⟩
  obtain ⟨herrors, htruncated, hspans⟩ := data_finish_lines cap ls n
  rw [hscan.errorsIn_eq] at herrors htruncated
  rw [hscan.markers_eq] at hspans
  refine ⟨?_, ?_, marked_of_spans hspans⟩
  · rw [show data.errors = _ from herrors, ← List.map_take, List.forall₂_map_right_iff,
      List.forall₂_same]
    exact fun x _ => ErrorLine.reports_ofLine x
  · rwa [List.length_map] at htruncated

/-- A log with two errors in a step that closes, with markers that are not due, and with a step
that no marker closes. -/
def mixedLog : List (String × Nat) := [
  ("========= Started a (results: 0, elapsed: 1 secs) (at 2016-07-13 16:09:31) =========", 1),
  ("TEST-UNEXPECTED-FAIL | a | wrong \t ", 2),
  ("========= Started b (results: 0, elapsed: 1 secs) (at 2016-07-13 16:09:32) =========", 3),
  ("TEST-UNEXPECTED-FAIL | b | wrong", 4),
  ("========= Finished c (results: 1, elapsed: 2 secs) (at 2016-07-13 16:09:33.5) =========", 5),
  ("========= Finished d (results: 2, elapsed: 2 secs) (at 2016-07-13 16:09:34) =========", 6),
  ("========= Started e (results: 0, elapsed: 1 secs) (at 2017-02-29 00:00:00) =========", 7)]

/-- The scan of the mixed log. -/
theorem exists_scan_mixedLog : ∃ t t' t'' : MarkerText,
    Scan false .start mixedLog [(t, 1), (t', 5), (t'', 7)]
      [(2, "TEST-UNEXPECTED-FAIL | a | wrong \t "), (4, "TEST-UNEXPECTED-FAIL | b | wrong")] := by
  have hopen : markerAt? false (mixedLog[0]).1 =
      some ⟨['a'], ['0'], "2016-07-13 16:09:31".toList⟩ := by
    decide +kernel
  have hclose : markerAt? true (mixedLog[4]).1 =
      some ⟨['c'], ['1'], "2016-07-13 16:09:33.5".toList⟩ := by
    decide +kernel
  have hlast : markerAt? false (mixedLog[6]).1 =
      some ⟨['e'], ['0'], "2017-02-29 00:00:00".toList⟩ := by
    decide +kernel
  obtain ⟨t, ht⟩ := Marker.exists_of_read? hopen
  obtain ⟨t', ht'⟩ := Marker.exists_of_read? hclose
  obtain ⟨t'', ht''⟩ := Marker.exists_of_read? hlast
  refine ⟨t, t', t'', .marker t ht ?_⟩
  refine .error _ (markerAt?_eq_none_iff.1 (by decide +kernel)) (by decide +kernel) ?_
  refine .quiet (markerAt?_eq_none_iff.1 (by decide +kernel)) (by decide +kernel) ?_
  refine .error _ (markerAt?_eq_none_iff.1 (by decide +kernel)) (by decide +kernel) ?_
  refine .marker t' ht' ?_
  refine .quiet (markerAt?_eq_none_iff.1 (by decide +kernel)) (by decide +kernel) ?_
  exact .marker t'' ht'' (.nil _ _)

/-- Of the two errors one is kept, without the white space at its end. -/
theorem summary_scan_mixedLog :
    let data := (((start 1).lines mixedLog).finish 3).data
    ∃ t t' t'' : MarkerText,
      Scan false .start mixedLog [(t, 1), (t', 5), (t'', 7)]
        [(2, "TEST-UNEXPECTED-FAIL | a | wrong \t "),
          (4, "TEST-UNEXPECTED-FAIL | b | wrong")] ∧
      List.Forall₂ ErrorLine.Reports [(2, "TEST-UNEXPECTED-FAIL | a | wrong \t ")] data.errors ∧
      data.errors = [⟨2, "TEST-UNEXPECTED-FAIL | a | wrong"⟩] ∧ data.truncated = true ∧
      Marked 7 [(t, 1), (t', 5), (t'', 7)] (data.steps.filter fun s => s.name ≠ "") ∧
      (data.steps.filter fun s => s.name ≠ "").map
          (fun s => (s.name, s.firstLine, s.lastLine, s.result)) =
        [("a", 1, 5, .testfailed), ("e", 7, 7, .unknown)] := by
  intro data
  obtain ⟨t, t', t'', hscan⟩ := exists_scan_mixedLog
  obtain ⟨herrors, htruncated, hmarked⟩ := (summary_scan 1 mixedLog 3).2 _ _ hscan
  have hlast : max 3 ((mixedLog.getLast?.map Prod.snd).getD 0) = 7 := by decide
  rw [hlast] at hmarked
  obtain ⟨hkept, hsteps⟩ : data.errors = [⟨2, "TEST-UNEXPECTED-FAIL | a | wrong"⟩] ∧
      (data.steps.filter fun s => s.name ≠ "").map
          (fun s => (s.name, s.firstLine, s.lastLine, s.result)) =
        [("a", 1, 5, .testfailed), ("e", 7, 7, .unknown)] := by
    decide +kernel
  exact ⟨t, t', t'', hscan, herrors, hkept, htruncated.2 (by simp), hmarked, hsteps⟩

end StepLog
end JobLog
