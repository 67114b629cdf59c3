import JobLog.Proofs.Step.Cases

/-!
# The summary of a log as a scan of its lines

A log is scanned with a flag that says whether a marked step is open. A line is a marker if it is a
start marker while the flag is down or a finish marker while it is up, and then it turns the flag;
all other lines are ordinary.

* `markers` and `ordinaryLines` are the two kinds of lines.
* `Classifier.errorsIn` are the errors that a classifier finds in lines, without any cap.
* `spansFrom` pairs the markers; a `StepSpan` is a step without its errors and its place.
* `data_finish_lines` tells the summary of every log by these: the errors up to the cap, whether
  there were more, and the marked steps. What the functions compute is told by relations in
  `Summary.lean`.
-/

namespace JobLog

/-! ### Markers and ordinary lines -/

/-- The lines that are markers, in order. -/
def markers (isOpen : Bool) : List (String × Nat) → List (Marker × Nat)
  | [] => []
  | x :: ls =>
    match markerAt? isOpen x.1 with
    | some m => (m, x.2) :: markers (!isOpen) ls
    | none => markers isOpen ls

/-- The lines that are no markers, in order. -/
def ordinaryLines (isOpen : Bool) : List (String × Nat) → List (String × Nat)
  | [] => []
  | x :: ls =>
    match markerAt? isOpen x.1 with
    | some _ => ordinaryLines (!isOpen) ls
    | none => x :: ordinaryLines isOpen ls

/-- The errors that the lines report to a classifier. -/
def Classifier.errorsIn (k : Classifier) : List (String × Nat) → List ErrorLine
  | [] => []
  | x :: ls => ((k.error? x.1).map (.ofLine x.2)).toList ++ errorsIn (k.after x.1) ls

/-! ### Spans -/

/-- What the markers tell of a step. -/
structure StepSpan where
  name : String
  firstLine : Nat
  started? : Option Timestamp
  lastLine : Nat
  finished? : Option Timestamp
  seconds? : Option Double
  result : StepResult
  deriving DecidableEq

/-- What the markers tell of a step. -/
def Step.span (s : Step) : StepSpan :=
  ⟨s.name, s.firstLine, s.started?, s.lastLine, s.finished?, s.seconds?, s.result⟩

namespace StepSpan

/-- The span that a start marker opens. -/
def opened (m : Marker) (n : Nat) : StepSpan :=
  ⟨String.ofList m.name, n, m.timestamp?, n, none, none, .unknown⟩

/-- The span closed at a line. -/
def closed (o : StepSpan) (n : Nat) (finished? : Option Timestamp) (result : StepResult) :
    StepSpan :=
  ⟨o.name, o.firstLine, o.started?, n, finished?, Step.duration? o.started? finished?, result⟩

end StepSpan

/-- The spans that markers make, which open and close in turn; one that no marker closes is closed
at the end of the log, without a time and a known result. -/
def spansFrom (endLine : Nat) : Option StepSpan → List (Marker × Nat) → List StepSpan
  | none, [] => []
  | some o, [] => [o.closed endLine none .unknown]
  | none, (m, n) :: ms => spansFrom endLine (some (.opened m n)) ms
  | some o, (m, n) :: ms => o.closed n m.timestamp? m.result :: spansFrom endLine none ms

/-- The spans of the steps with a name. -/
def namedSpans (ss : List Step) : List StepSpan := (ss.filter (·.name ≠ "")).map Step.span

@[simp] theorem namedSpans_append (ss ts : List Step) :
    namedSpans (ss ++ ts) = namedSpans ss ++ namedSpans ts := by
  simp [namedSpans]

theorem namedSpans_of_empty {s : Step} (h : s.name = "") : namedSpans [s] = [] := by
  simp [namedSpans, h]

theorem namedSpans_of_ne {s : Step} (h : s.name ≠ "") : namedSpans [s] = [s.span] := by
  simp [namedSpans, h]

theorem span_finish (s : Step) (n : Nat) (finished? : Option Timestamp) (result : StepResult) :
    (s.finish n finished? result).span = s.span.closed n finished? result := rfl

namespace StepLog

theorem isOpen_of_outside {l : StepLog} (h : l.phase = .outside) : l.isOpen = false := by
  simp [isOpen, h]

theorem isOpen_of_inside {l : StepLog} (h : l.phase = .inside) : l.isOpen = true := by
  simp [isOpen, h]

/-! ### Errors -/

/-- The errors found so far and those that the lines to come report. -/
def found (l : StepLog) (ls : List (String × Nat)) : List ErrorLine :=
  l.errors ++ l.classifier.errorsIn (ordinaryLines l.isOpen ls)

theorem found_of_marker {l : StepLog} {text : String} {m : Marker}
    (hm : markerAt? l.isOpen text = some m) (n : Nat) (ls : List (String × Nat)) :
    l.found ((text, n) :: ls) =
      l.errors ++ l.classifier.errorsIn (ordinaryLines (!l.isOpen) ls) := by
  simp [found, ordinaryLines, hm]

theorem found_of_quiet {l : StepLog} {text : String} (hm : markerAt? l.isOpen text = none)
    (herror : l.classifier.error? text = none) (n : Nat) (ls : List (String × Nat)) :
    l.found ((text, n) :: ls) =
      l.errors ++ (l.classifier.after text).errorsIn (ordinaryLines l.isOpen ls) := by
  simp [found, ordinaryLines, hm, Classifier.errorsIn, herror]

theorem found_of_error {l : StepLog} {text e : String} (hm : markerAt? l.isOpen text = none)
    (herror : l.classifier.error? text = some e) (n : Nat) (ls : List (String × Nat)) :
    l.found ((text, n) :: ls) =
      l.errors ++
        .ofLine n e :: (l.classifier.after text).errorsIn (ordinaryLines l.isOpen ls) := by
  simp [found, ordinaryLines, hm, Classifier.errorsIn, herror]

/-- What a log keeps of the errors that are found in all, `ls` being the lines to come. -/
structure Keeps (cap : Nat) (all : List ErrorLine) (l : StepLog) (ls : List (String × Nat)) :
    Prop where
  cap_eq : l.cap = cap
  length_le : l.errors.length ≤ cap
  take_eq : (l.found ls).take cap = all.take cap
  truncated_iff : (l.truncated = true ∨ cap < (l.found ls).length) ↔ cap < all.length

/-- A line that adds nothing to what is found leaves what is kept. -/
theorem Keeps.of_found_eq {cap : Nat} {all : List ErrorLine} {l l' : StepLog}
    {ls ls' : List (String × Nat)} (h : Keeps cap all l ls) (hcap : l'.cap = l.cap)
    (hlength : l'.errors.length ≤ cap) (hfound : l'.found ls' = l.found ls)
    (htruncated : l'.truncated = l.truncated) : Keeps cap all l' ls' where
  cap_eq := hcap.trans h.cap_eq
  length_le := hlength
  take_eq := hfound ▸ h.take_eq
  truncated_iff := by rw [hfound, htruncated]; exact h.truncated_iff

theorem LineStep.keeps {l l' : StepLog} {text : String} {n cap : Nat} {all : List ErrorLine}
    {ls : List (String × Nat)} (hstep : LineStep l text n l')
    (h : Keeps cap all l ((text, n) :: ls)) : Keeps cap all l' ls := by
  cases hstep with
  | opens m hphase hm =>
    refine h.of_found_eq rfl h.length_le ?_ rfl
    rw [found_of_marker hm, isOpen_of_outside hphase]
    rfl
  | closes m hphase hm =>
    refine h.of_found_eq rfl h.length_le ?_ rfl
    rw [found_of_marker hm, isOpen_of_inside hphase]
    rfl
  | quiet hm herror =>
    refine h.of_found_eq rfl h.length_le ?_ rfl
    rw [found_of_quiet hm herror]
    rfl
  | dropped e hm herror hfull =>
    have htake := h.take_eq
    have htruncated := h.truncated_iff
    rw [h.cap_eq] at hfull
    rw [found_of_error hm herror] at htake htruncated
    -- the errors that are kept are `cap` already, so those behind them do not count
    refine ⟨h.cap_eq, h.length_le, ?_, ?_⟩
    · rw [← htake, found, List.take_append_of_le_length hfull, List.take_append_of_le_length hfull]
    · rw [← htruncated]
      simp only [List.length_append, List.length_cons, true_or, true_iff]
      exact .inr (by omega)
  | kept e hm herror hroom =>
    rw [h.cap_eq] at hroom
    refine h.of_found_eq rfl (by simpa [addError] using Nat.succ_le_of_lt hroom) ?_ rfl
    rw [found_of_error hm herror, List.append_cons]
    rfl

/-- What a log keeps at last, if it has not ended before. -/
theorem Keeps.lines {cap : Nat} {all : List ErrorLine} {l : StepLog} {ls : List (String × Nat)}
    (hlive : l.phase ≠ .ended) (h : Keeps cap all l ls) : Keeps cap all (l.lines ls) [] := by
  induction ls generalizing l with
  | nil => exact h
  | cons x ls ih =>
    have hstep := line_step l x.1 x.2 hlive
    exact ih (hstep.live hlive) (hstep.keeps h)

/-! ### Marked steps -/

/-- The span of the open step, if it has a name. -/
def openSpan? (l : StepLog) : Option StepSpan :=
  (l.open?.filter fun s => s.name ≠ "").map Step.span

theorem openSpan?_of_outside {l : StepLog} (hl : l.Phased) (h : l.phase = .outside) :
    l.openSpan? = none ∧
      ∀ n, namedSpans (l.closedAt n) = namedSpans l.closed := by
  cases hopen : l.open? with
  | none => simp [openSpan?, closedAt, hopen, namedSpans]
  | some s =>
    have hname := hl.outside h s hopen
    have hfinish (n : Nat) : namedSpans [s.finish n none .unknown] = [] := namedSpans_of_empty hname
    simp [openSpan?, closedAt, hopen, hname, hfinish]

theorem openSpan?_of_inside {l : StepLog} (hl : l.Phased) (h : l.phase = .inside) :
    ∃ s, l.open? = some s ∧ s.name ≠ "" ∧ l.openSpan? = some s.span := by
  obtain ⟨s, hs, hname⟩ := hl.inside h
  exact ⟨s, hs, hname, by simp [openSpan?, hs, Option.filter, hname]⟩

/-- The spans of the steps closed so far and those that the lines to come make. -/
def spans (endLine : Nat) (l : StepLog) (ls : List (String × Nat)) : List StepSpan :=
  namedSpans l.closed ++ spansFrom endLine l.openSpan? (markers l.isOpen ls)

theorem spans_of_marker {l : StepLog} {text : String} {m : Marker}
    (hm : markerAt? l.isOpen text = some m) (endLine n : Nat) (ls : List (String × Nat)) :
    l.spans endLine ((text, n) :: ls) =
      namedSpans l.closed ++ spansFrom endLine l.openSpan? ((m, n) :: markers (!l.isOpen) ls) := by
  simp [spans, markers, hm]

theorem spans_of_ordinary {l : StepLog} {text : String} (hm : markerAt? l.isOpen text = none)
    (endLine n : Nat) (ls : List (String × Nat)) :
    l.spans endLine ((text, n) :: ls) = l.spans endLine ls := by
  simp [spans, markers, hm]

theorem openSpan?_addError {l : StepLog} (e : ErrorLine) :
    (l.addError e).openSpan? = l.openSpan? := by
  cases hopen : l.open? with
  | none => simp [openSpan?, addError, hopen, Option.filter, Step.addError, Step.begin]
  | some s => simp [openSpan?, addError, hopen, Option.filter, Step.addError, Step.span, apply_ite]

/-- A line leaves the spans that are made in all. -/
theorem LineStep.spans_eq {l l' : StepLog} {text : String} {n : Nat}
    (hstep : LineStep l text n l') (hl : l.Phased) (endLine : Nat) (ls : List (String × Nat)) :
    l'.spans endLine ls = l.spans endLine ((text, n) :: ls) := by
  cases hstep with
  | opens m hphase hm =>
    obtain ⟨hnone, hclosed⟩ := openSpan?_of_outside hl hphase
    have hname : String.ofList m.name ≠ "" := Marker.ofList_name_ne_empty hm
    -- a step that is open outside has no name and so no span, neither open nor closed
    have hopen : openSpan? ({ l with lastLine := n }.enter m n) = some (.opened m n) := by
      simp [openSpan?, enter, Option.filter, Step.begin, hname, Step.span, StepSpan.opened]
    rw [spans_of_marker hm, isOpen_of_outside hphase, hnone, spansFrom, spans, hopen]
    exact congrArg (· ++ _) (hclosed (n - 1))
  | closes m hphase hm =>
    obtain ⟨s, hs, hname, hspan⟩ := openSpan?_of_inside hl hphase
    have hclosed : ({ l with lastLine := n }.leave m n).closed =
        l.closed ++ [s.finish n m.timestamp? m.result] := by
      simp [leave, hs]
    rw [spans_of_marker hm, isOpen_of_inside hphase, hspan, spansFrom, ← span_finish, spans,
      hclosed, namedSpans_append, namedSpans_of_ne (s := s.finish n m.timestamp? m.result) hname,
      List.append_assoc]
    rfl
  | quiet hm herror => exact (spans_of_ordinary hm endLine n ls).symm
  | dropped e hm herror hfull => exact (spans_of_ordinary hm endLine n ls).symm
  | kept e hm herror hroom =>
    rw [spans_of_ordinary hm, spans, openSpan?_addError]
    rfl

theorem spans_lines {l : StepLog} (hlive : l.phase ≠ .ended) (hl : l.Phased) (endLine : Nat)
    (ls : List (String × Nat)) : (l.lines ls).spans endLine [] = l.spans endLine ls := by
  induction ls generalizing l with
  | nil => rfl
  | cons x ls ih =>
    have hstep := line_step l x.1 x.2 hlive
    rw [lines_cons, ih (hstep.live hlive) (hstep.phased hlive hl), hstep.spans_eq hl]

/-! ### The summary -/

/-- The end of the log closes the open step. -/
theorem namedSpans_finish {l : StepLog} (hlive : l.phase ≠ .ended) (hl : l.Phased) (n : Nat) :
    namedSpans (l.finish n).closed = l.spans (max n l.lastLine) [] := by
  rw [finish_eq hlive]
  cases hphase : l.phase with
  | ended => exact absurd hphase hlive
  | outside =>
    obtain ⟨hnone, hclosed⟩ := openSpan?_of_outside hl hphase
    simp [spans, markers, spansFrom, hnone, hclosed]
  | inside =>
    obtain ⟨s, hs, hname, hspan⟩ := openSpan?_of_inside hl hphase
    have hlast := namedSpans_of_ne (s := s.finish (max n l.lastLine) none .unknown) hname
    simp [spans, markers, spansFrom, hspan, closedAt, hs, hlast, span_finish]

theorem keeps_start (cap : Nat) (ls : List (String × Nat)) :
    Keeps cap (Classifier.start.errorsIn (ordinaryLines false ls)) (start cap) ls where
  cap_eq := rfl
  length_le := Nat.zero_le cap
  take_eq := rfl
  truncated_iff := by simp [found, start, isOpen]

/-- The summary of every log, by the functions of a scan: of the errors in the ordinary lines the
first `cap` are kept, and it is told whether there were more; the marked steps are those that the
markers make, where the last line ends a step that is not closed. -/
theorem data_finish_lines (cap : Nat) (ls : List (String × Nat)) (n : Nat) :
    let data := (((start cap).lines ls).finish n).data
    let errors := Classifier.start.errorsIn (ordinaryLines false ls)
    let lastLine := max n ((ls.getLast?.map Prod.snd).getD 0)
    data.errors = errors.take cap ∧ (data.truncated = true ↔ cap < errors.length) ∧
      namedSpans data.steps = spansFrom lastLine none (markers false ls) := by
  intro data errors lastLine
  have hlive : (start cap).phase ≠ .ended := by simp [start]
  have hkeeps := (keeps_start cap ls).lines hlive
  have hfound : ((start cap).lines ls).found [] = ((start cap).lines ls).errors := by
    simp [found, ordinaryLines, Classifier.errorsIn]
  refine ⟨?_, ?_, ?_⟩
  · have htake := hkeeps.take_eq
    rw [hfound, List.take_of_length_le hkeeps.length_le] at htake
    exact (errors_finish _ n).trans htake
  · have htruncated := hkeeps.truncated_iff
    rw [hfound, or_iff_left (Nat.not_lt_of_le hkeeps.length_le)] at htruncated
    rw [← htruncated, ← truncated_finish _ n]
    rfl
  · have hspans := namedSpans_finish (lines_live hlive ls) (lines_phased (phased_start cap) ls) n
    rw [lines_lastLine hlive, spans_lines hlive (phased_start cap)] at hspans
    exact hspans

end StepLog
end JobLog
