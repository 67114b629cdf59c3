import JobLog.Proofs.Step.Partition
import JobLog.Proofs.Step.Scan
import Mathlib.Data.List.Nodup

/-!
# The lines of the steps

Where the numbers of the lines increase, each step of a log is an interval of lines. The intervals
do not touch, and each error lies in the interval of its step, so that its line alone tells the step
that it belongs to.

* `Step.Encloses` says of a step that its lines so far, and the errors on them, lie before a line.
* `Row` says it of steps that are closed, one behind the other.
* `StepLog.Laid` is the invariant: all that was read so far lies before the next line.
* `StepLog.intervals_lines` is the result for a log that was ended.
-/

namespace JobLog

/-- A finish marker stands on this line. -/
def FinishMarkerAt (ls : List (String × Nat)) (n : Nat) : Prop :=
  ∃ text, (text, n) ∈ ls ∧ (Marker.read? .finished text).isSome = true

/-- Lines with increasing numbers have only one text for each number. -/
theorem text_eq_of_increasing {ls : List (String × Nat)} (hls : ls.Pairwise fun x y => x.2 < y.2)
    {text text' : String} {n : Nat} (h : (text, n) ∈ ls) (h' : (text', n) ∈ ls) : text = text' := by
  have hnodup : (ls.map Prod.snd).Nodup := List.pairwise_map.2 (hls.imp Nat.ne_of_lt)
  exact congrArg Prod.fst (List.inj_on_of_nodup_map hnodup h h' rfl)

/-! ### Steps -/

/-- The line is one of the step, from its first to its last. -/
def Step.Covers (s : Step) (n : Nat) : Prop := s.firstLine ≤ n ∧ n ≤ s.lastLine

/-- The step and its errors lie before line `n`. If it has a name, then its errors stand behind its
first line, and on lines that are no finish markers. -/
structure Step.Encloses (ls : List (String × Nat)) (s : Step) (n : Nat) : Prop where
  firstLine_lt : s.firstLine < n
  errors : ∀ e ∈ s.errors, s.firstLine ≤ e.number ∧ e.number < n
  named : s.name ≠ "" → ∀ e ∈ s.errors, s.firstLine < e.number ∧ ¬ FinishMarkerAt ls e.number

namespace Step

variable {ls : List (String × Nat)} {s : Step} {n m : Nat}

theorem Encloses.mono (h : s.Encloses ls n) (hle : n ≤ m) : s.Encloses ls m where
  firstLine_lt := Nat.lt_of_lt_of_le h.firstLine_lt hle
  errors e he := ⟨(h.errors e he).1, Nat.lt_of_lt_of_le (h.errors e he).2 hle⟩
  named := h.named

theorem encloses_begin (name : String) (order : Nat) (started? : Option Timestamp) (h : n < m) :
    (begin name order n started?).Encloses ls m :=
  ⟨h, by simp [begin], by simp [begin]⟩

/-- A step gets an error on a line that is behind all it has so far. -/
theorem Encloses.addError (h : s.Encloses ls n) (hle : n ≤ m) (text : String)
    (hnamed : s.name ≠ "" → ¬ FinishMarkerAt ls m) :
    (s.addError (.ofLine m text)).Encloses ls (m + 1) := by
  have hfirst : s.firstLine < m := (h.mono hle).firstLine_lt
  have hbefore : s.Encloses ls (m + 1) := h.mono (Nat.le_succ_of_le hle)
  refine ⟨hbefore.firstLine_lt, ?_, fun hname => ?_⟩
  · exact List.forall_mem_append.2 ⟨hbefore.errors,
      List.forall_mem_singleton.2 ⟨Nat.le_of_lt hfirst, Nat.lt_succ_self m⟩⟩
  · exact List.forall_mem_append.2 ⟨h.named hname,
      List.forall_mem_singleton.2 ⟨hfirst, hnamed hname⟩⟩

/-- A step that was opened for an error. -/
theorem encloses_bucket (order m : Nat) (text : String) :
    ((begin "" order (ErrorLine.ofLine m text).number none).addError (.ofLine m text)).Encloses ls
      (m + 1) where
  firstLine_lt := Nat.lt_succ_self m
  errors e he := by
    obtain rfl := List.mem_singleton.1 he
    exact ⟨Nat.le_refl m, Nat.lt_succ_self m⟩
  named hname := absurd rfl hname

end Step

/-- Closed steps, one behind the other and all before line `n`. -/
structure Row (ls : List (String × Nat)) (n : Nat) (ss : List Step) : Prop where
  encloses : ∀ s ∈ ss, s.Encloses ls (s.lastLine + 1)
  lastLine_lt : ∀ s ∈ ss, s.lastLine < n
  apart : ss.Pairwise fun s t => s.lastLine < t.firstLine

namespace Row

variable {ls : List (String × Nat)} {n m : Nat} {ss : List Step} {s : Step}

theorem mono (h : Row ls n ss) (hle : n ≤ m) : Row ls m ss :=
  ⟨h.encloses, fun s hs => Nat.lt_of_lt_of_le (h.lastLine_lt s hs) hle, h.apart⟩

/-- One more step is closed behind the others. -/
theorem append (h : Row ls n ss) (hs : s.Encloses ls (s.lastLine + 1)) (hlast : s.lastLine < n)
    (hbehind : ∀ t ∈ ss, t.lastLine < s.firstLine) : Row ls n (ss ++ [s]) where
  encloses := List.forall_mem_append.2 ⟨h.encloses, List.forall_mem_singleton.2 hs⟩
  lastLine_lt := List.forall_mem_append.2 ⟨h.lastLine_lt, List.forall_mem_singleton.2 hlast⟩
  apart := by
    refine List.pairwise_append.2 ⟨h.apart, List.pairwise_singleton .., fun t ht u hu => ?_⟩
    obtain rfl := List.mem_singleton.1 hu
    exact hbehind t ht

/-- No line is in two of the steps. -/
theorem eq_of_covers (h : Row ls n ss) {t : Step} (hs : s ∈ ss) (ht : t ∈ ss) {k : Nat}
    (hsk : s.Covers k) (htk : t.Covers k) : s = t := by
  have happart := List.pairwise_iff_getElem.1 h.apart
  obtain ⟨i, hi, rfl⟩ := List.getElem_of_mem hs
  obtain ⟨j, hj, rfl⟩ := List.getElem_of_mem ht
  obtain ⟨hfirst, hlast⟩ := hsk
  obtain ⟨hfirst', hlast'⟩ := htk
  rcases Nat.lt_trichotomy i j with hij | rfl | hji
  · have hlt := happart i j hi hj hij
    omega
  · rfl
  · have hlt := happart j i hj hi hji
    omega

end Row

namespace StepLog

/-! ### The invariant -/

/-- All that was read so far lies before line `n`; a finish marker closed each step with a name. -/
structure Laid (ls : List (String × Nat)) (n : Nat) (l : StepLog) : Prop extends Phased l where
  bound_le : n ≤ l.lastLine + 1
  closed : Row ls n l.closed
  marked : ∀ s ∈ l.closed, s.name ≠ "" → FinishMarkerAt ls s.lastLine
  opened : ∀ s, l.open? = some s → s.Encloses ls n ∧ ∀ t ∈ l.closed, t.lastLine < s.firstLine
  increasing : l.errors.Pairwise fun e e' => e.number < e'.number
  errors_lt : ∀ e ∈ l.errors, e.number < n

variable {ls : List (String × Nat)} {l l' : StepLog} {n m k : Nat}

theorem laid_start (cap : Nat) : Laid ls 0 (start cap) where
  toPhased := phased_start cap
  bound_le := Nat.zero_le _
  closed := ⟨by simp [start], by simp [start], .nil⟩
  marked _ hs := by simp [start] at hs
  opened _ hs := by simp [start] at hs
  increasing := .nil
  errors_lt _ he := by simp [start] at he

/-- The open step is closed at line `m`, behind all that was read. -/
theorem Laid.row_finish (h : Laid ls n l) (hnk : n ≤ k)
    (hm : ∀ s, l.open? = some s → n ≤ m + 1 ∧ m < k) (finished? : Option Timestamp)
    (result : StepResult) :
    Row ls k (l.closed ++ (l.open?.map (·.finish m finished? result)).toList) := by
  have hclosed := h.closed.mono hnk
  cases hopen : l.open? with
  | none => simpa using hclosed
  | some s =>
    obtain ⟨hs, hbehind⟩ := h.opened s hopen
    obtain ⟨hle, hlt⟩ := hm s hopen
    have hs' := hs.mono hle
    exact hclosed.append ⟨hs'.firstLine_lt, hs'.errors, hs'.named⟩ hlt hbehind

/-- A step with a name has no error on a finish marker. -/
theorem Laid.not_finishMarkerAt (h : Laid ls n l) (hls : ls.Pairwise fun x y => x.2 < y.2)
    {text : String} (hmem : (text, m) ∈ ls) (hlive : l.phase ≠ .ended)
    (hm : markerAt? l.isOpen text = none) {s : Step} (hs : l.open? = some s) (hname : s.name ≠ "") :
    ¬ FinishMarkerAt ls m := by
  rintro ⟨text', hmem', hfinish⟩
  obtain rfl := text_eq_of_increasing hls hmem hmem'
  have hinside : l.phase = .inside := by
    cases hphase : l.phase with
    | inside => rfl
    | outside => exact absurd (h.outside hphase s hs) hname
    | ended => exact absurd hphase hlive
  rw [isOpen_of_inside hinside] at hm
  have hnone : Marker.read? .finished text = none := hm
  simp [hnone] at hfinish

/-- **A line keeps what was read before it**, and lies behind it. -/
theorem LineStep.laid {text : String} (hls : ls.Pairwise fun x y => x.2 < y.2)
    (hmem : (text, m) ∈ ls) (hstep : LineStep l text m l') (hlive : l.phase ≠ .ended)
    (h : Laid ls n l) (hle : n ≤ m) : Laid ls (m + 1) l' := by
  have hphased := hstep.phased hlive h.toPhased
  have hbound : m + 1 ≤ l'.lastLine + 1 := by rw [hstep.lastLine_eq]
  have herrors_lt : ∀ e ∈ l.errors, e.number < m + 1 := fun e he => by
    have hlt := h.errors_lt e he
    omega
  have hclosed : Row ls (m + 1) l.closed := h.closed.mono (by omega)
  have hopened : ∀ s, l.open? = some s →
      s.Encloses ls (m + 1) ∧ ∀ t ∈ l.closed, t.lastLine < s.firstLine := fun s hs =>
    ⟨(h.opened s hs).1.mono (by omega), (h.opened s hs).2⟩
  cases hstep with
  | opens marker hphase hm =>
    have hrow : Row ls m (l.closedAt (m - 1)) := by
      refine h.row_finish hle (fun s hs => ?_) none .unknown
      have hfirst := (h.opened s hs).1.firstLine_lt
      omega
    refine ⟨hphased, hbound, hrow.mono (Nat.le_succ m), fun s hs hname => ?_, fun s hs => ?_,
      h.increasing, herrors_lt⟩
    -- the step that was open till now has no name
    · rcases List.mem_append.1 hs with hs | hs
      · exact h.marked s hs hname
      · obtain ⟨t, ht, rfl⟩ : ∃ t, l.open? = some t ∧ t.finish (m - 1) none .unknown = s := by
          simpa using hs
        exact absurd (h.outside hphase t ht) hname
    · obtain rfl := Option.some.inj hs
      exact ⟨Step.encloses_begin _ _ _ (Nat.lt_succ_self m), hrow.lastLine_lt⟩
  | closes marker hphase hm =>
    have hrow := h.row_finish (m := m) (k := m + 1) (by omega)
      (fun _ _ => ⟨by omega, Nat.lt_succ_self m⟩) marker.timestamp? marker.result
    refine ⟨hphased, hbound, hrow, fun s hs hname => ?_, by simp [leave], h.increasing,
      herrors_lt⟩
    rcases List.mem_append.1 hs with hs | hs
    · exact h.marked s hs hname
    · obtain ⟨t, -, rfl⟩ :
          ∃ t, l.open? = some t ∧ t.finish m marker.timestamp? marker.result = s := by
        simpa using hs
      rw [isOpen_of_inside hphase] at hm
      exact ⟨text, hmem, Option.isSome_iff_exists.2 ⟨marker, hm⟩⟩
  | quiet => exact ⟨hphased, hbound, hclosed, h.marked, hopened, h.increasing, herrors_lt⟩
  | dropped => exact ⟨hphased, hbound, hclosed, h.marked, hopened, h.increasing, herrors_lt⟩
  | kept e hm =>
    have hlast : (ErrorLine.ofLine m e).number < m + 1 := Nat.lt_succ_self m
    refine ⟨hphased, hbound, hclosed, h.marked, fun s hs => ?_, ?_,
      List.forall_mem_append.2 ⟨herrors_lt, List.forall_mem_singleton.2 hlast⟩⟩
    · obtain rfl := Option.some.inj hs
      cases hopen : l.open? with
      | none =>
        exact ⟨Step.encloses_bucket _ m e, fun t ht =>
          Nat.lt_of_lt_of_le (h.closed.lastLine_lt t ht) hle⟩
      | some t =>
        obtain ⟨ht, hbehind⟩ := h.opened t hopen
        refine ⟨ht.addError hle e fun hname => ?_, hbehind⟩
        exact h.not_finishMarkerAt hls hmem hlive hm hopen hname
    · refine List.pairwise_append.2 ⟨h.increasing, List.pairwise_singleton .., fun a ha b hb => ?_⟩
      obtain rfl := List.mem_singleton.1 hb
      exact Nat.lt_of_lt_of_le (h.errors_lt a ha) hle

theorem laid_lines (hls : ls.Pairwise fun x y => x.2 < y.2) {more : List (String × Nat)}
    (hmore : more <:+ ls) (hlive : l.phase ≠ .ended) (h : Laid ls n l)
    (hle : ∀ x ∈ more, n ≤ x.2) : ∃ k, Laid ls k (l.lines more) := by
  induction more generalizing l n with
  | nil => exact ⟨n, h⟩
  | cons x more ih =>
    have hmem : x ∈ ls := hmore.subset List.mem_cons_self
    have hstep := line_step l x.1 x.2 hlive
    have hpairwise := List.pairwise_cons.1 (hls.sublist hmore.sublist)
    exact ih ((List.suffix_cons x more).trans hmore) (hstep.live hlive)
      (hstep.laid hls hmem hlive h (hle x List.mem_cons_self)) hpairwise.1

end StepLog

/-! ### Summaries -/

/-- The steps of a log with these lines are intervals of lines. They do not touch, each error lies
in the interval of its step and in no other; an error of a step with a name lies behind its first
line, and before its last line if a finish marker stands there. -/
structure StepData.Intervals (ls : List (String × Nat)) (d : StepData) : Prop where
  firstLine_le : ∀ s ∈ d.steps, s.firstLine ≤ s.lastLine
  apart : d.steps.Pairwise fun s t => s.lastLine < t.firstLine
  covers : ∀ s ∈ d.steps, ∀ e ∈ s.errors, s.Covers e.number
  behind_start : ∀ s ∈ d.steps, s.name ≠ "" → ∀ e ∈ s.errors, s.firstLine < e.number
  before_finish : ∀ s ∈ d.steps, s.name ≠ "" → FinishMarkerAt ls s.lastLine →
    ∀ e ∈ s.errors, e.number < s.lastLine
  increasing : d.errors.Pairwise fun e e' => e.number < e'.number
  home : ∀ e ∈ d.errors, ∃ s ∈ d.steps, e ∈ s.errors ∧ ∀ t ∈ d.steps, t.Covers e.number → t = s

theorem Step.Encloses.covers {ls : List (String × Nat)} {s : Step}
    (h : s.Encloses ls (s.lastLine + 1)) {e : ErrorLine} (he : e ∈ s.errors) : s.Covers e.number :=
  ⟨(h.errors e he).1, Nat.le_of_lt_succ (h.errors e he).2⟩

/-- Steps in a row that hold the errors are intervals. -/
theorem Row.intervals {ls : List (String × Nat)} {n : Nat} {d : StepData} (h : Row ls n d.steps)
    (herrors : d.steps.flatMap Step.errors = d.errors)
    (hincreasing : d.errors.Pairwise fun e e' => e.number < e'.number) : d.Intervals ls where
  firstLine_le s hs := Nat.le_of_lt_succ (h.encloses s hs).firstLine_lt
  apart := h.apart
  covers s hs e he := (h.encloses s hs).covers he
  behind_start s hs hname e he := ((h.encloses s hs).named hname e he).1
  before_finish s hs hname hfinish e he := by
    have hcovers := (h.encloses s hs).covers he
    -- the error stands on no finish marker, but the last line is one
    refine Nat.lt_of_le_of_ne hcovers.2 fun heq => ?_
    exact ((h.encloses s hs).named hname e he).2 (heq ▸ hfinish)
  increasing := hincreasing
  home e he := by
    obtain ⟨s, hs, hes⟩ := List.mem_flatMap.1 (herrors ▸ he)
    exact ⟨s, hs, hes, fun t ht hte => h.eq_of_covers ht hs hte ((h.encloses s hs).covers hes)⟩

namespace StepLog

/-- **The steps of a log are intervals of lines**, if the numbers of its lines increase: whatever
number the end has, the interval alone tells the step of each error. A step with a name that is
closed before the end has a finish marker on its last line. -/
theorem intervals_lines (cap : Nat) (ls : List (String × Nat)) (n : Nat)
    (hls : ls.Pairwise fun x y => x.2 < y.2) :
    (((start cap).lines ls).finish n).data.Intervals ls ∧
      ∀ s ∈ ((start cap).lines ls).closed, s.name ≠ "" → FinishMarkerAt ls s.lastLine := by
  have hlive := lines_live (l := start cap) (by simp [start]) ls
  obtain ⟨k, hlaid⟩ := laid_lines hls (List.suffix_refl ls) (by simp [start]) (laid_start cap)
    (fun _ _ => Nat.zero_le _)
  refine ⟨?_, hlaid.marked⟩
  have hbound := hlaid.bound_le
  have herrors := flatMap_errors_finish cap ls n
  rw [finish_eq hlive] at herrors ⊢
  have hrow := hlaid.row_finish (m := max n ((start cap).lines ls).lastLine) (by omega)
    (fun _ _ => ⟨by omega, Nat.lt_succ_self _⟩) none .unknown
  exact hrow.intervals herrors hlaid.increasing

/-- Errors before, in and behind a step, and a second step that breaks off; numbers are left out. -/
def brokenOff : List (String × Nat) := [
  ("abort: before", 1),
  ("========= Started a (results: 0, elapsed: 0 secs) (at 2016-07-13 16:09:31) =========", 3),
  ("rm: cannot remove", 4),
  ("========= Finished a (results: 0, elapsed: 0 secs) (at 2016-07-13 16:09:31) =========", 5),
  ("abort: behind", 6),
  ("========= Started b (results: 0, elapsed: 0 secs) (at 2016-07-13 16:09:31) =========", 9),
  ("abort: inside", 12)]

/-- The last line ends the last step, though the end has a smaller number. -/
theorem intervals_lines_brokenOff :
    (((start 100).lines brokenOff).finish 2).data.Intervals brokenOff ∧
      (((start 100).lines brokenOff).finish 2).data.steps.map
          (fun s => (s.name, s.firstLine, s.lastLine, s.errors.map ErrorLine.number)) =
        [("", 1, 2, [1]), ("a", 3, 5, [4]), ("", 6, 8, [6]), ("b", 9, 12, [12])] :=
  ⟨(intervals_lines 100 brokenOff 2 (by decide)).1, by decide +kernel⟩

end StepLog
end JobLog
