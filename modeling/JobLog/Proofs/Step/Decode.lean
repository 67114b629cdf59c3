import JobLog.Proofs.Decimal.Nearest
import JobLog.Proofs.Step.Time
import JobLog.Step.Log

/-!
# The step between two markers

What two markers tell of the step between them: its name, its result and its seconds.

* `CodeTells` is the result behind a code, and `SecondsBetween` are the seconds between two times.
* `StepLog.markers_decode` is the step of any two markers.
-/

namespace JobLog

open Text (isDigit)

/-- The result that a number stands for. -/
inductive IsResult : Nat → StepResult → Prop
  | success : IsResult 0 .success
  | testfailed : IsResult 1 .testfailed
  | busted : IsResult 2 .busted
  | skipped : IsResult 3 .skipped
  | exception : IsResult 4 .exception
  | retry : IsResult 5 .retry
  | usercancel : IsResult 6 .usercancel
  | superseded : IsResult 8 .superseded
  | unknown {n : Nat} (h : n ∉ [0, 1, 2, 3, 4, 5, 6, 8]) : IsResult n .unknown

theorem isResult_ofCode : ∀ n, IsResult n (.ofCode n)
  | 0 => .success
  | 1 => .testfailed
  | 2 => .busted
  | 3 => .skipped
  | 4 => .exception
  | 5 => .retry
  | 6 => .usercancel
  | 7 => .unknown (by decide)
  | 8 => .superseded
  | n + 9 => .unknown (by simp)

/-- The result behind a code: only the ASCII digits of a number of a word tell one. -/
inductive CodeTells (code : List Char) : StepResult → Prop
  | number {result : StepResult} (hascii : ∀ c ∈ code, c.isDigit = true)
      (hword : Nat.ofDigitChars 10 code 0 < 2 ^ 64)
      (hresult : IsResult (Nat.ofDigitChars 10 code 0) result) : CodeTells code result
  | unknown (h : ¬ ((∀ c ∈ code, c.isDigit = true) ∧ Nat.ofDigitChars 10 code 0 < 2 ^ 64)) :
      CodeTells code .unknown

theorem MarkerText.codeTells (t : MarkerText) : CodeTells t.code t.marker.result := by
  have hbound : Text.wordBound = 2 ^ 64 := rfl
  by_cases hcode : (∀ c ∈ t.code, c.isDigit = true) ∧ Nat.ofDigitChars 10 t.code 0 < 2 ^ 64
  · have hread : Text.readDigits? t.code = some (Nat.ofDigitChars 10 t.code 0) := by
      rw [Text.readDigits?, Text.digitsValue_eq_ofDigitChars, hbound]
      exact if_pos ⟨t.code_digits.1, List.all_eq_true.2 hcode.1, hcode.2⟩
    rw [Marker.result, marker, hread]
    exact .number hcode.1 hcode.2 (isResult_ofCode _)
  · have hread : Text.readDigits? t.code = none := by
      rw [Text.readDigits?, Text.digitsValue_eq_ofDigitChars, hbound]
      exact if_neg fun h => hcode ⟨List.all_eq_true.1 h.2.1, h.2.2⟩
    rw [Marker.result, marker, hread]
    exact .unknown hcode

/-- A time starts with a digit. -/
theorem exists_of_timeText {w : List Char} (h : TimeText w) :
    ∃ d s, isDigit d = true ∧ w = d :: s := by
  obtain ⟨_, f, ⟨u, v, ⟨hlength, hu⟩, -, rfl⟩, -, rfl⟩ := h
  obtain ⟨d, ds, rfl⟩ := List.exists_cons_of_length_eq_add_one hlength
  exact ⟨d, ds ++ v ++ f, hu d List.mem_cons_self, rfl⟩

/-- The year of a time has four digits. -/
theorem year_of_timeText {w : List Char} {a : Timestamp} (hw : TimeText w)
    (h : Timestamp.ofChars? w = some a) : 0 ≤ a.year ∧ a.year ≤ 9999 := by
  obtain ⟨d, s, hd, rfl⟩ := exists_of_timeText hw
  exact Timestamp.year_of_ofChars? hd h

/-- The seconds between two times, which are known where both times are: the whole microseconds
between them, in seconds. -/
inductive SecondsBetween : Option Timestamp → Option Timestamp → Option Double → Prop
  | known {a b : Timestamp} {x : Double} (h : x.IsMillionth ((b.nanosSince a).tdiv 1000)) :
      SecondsBetween (some a) (some b) (some x)
  | noStart (b? : Option Timestamp) : SecondsBetween none b? none
  | noEnd (a? : Option Timestamp) : SecondsBetween a? none none

theorem SecondsBetween.isSome_iff {a? b? : Option Timestamp} {x? : Option Double}
    (h : SecondsBetween a? b? x?) : x?.isSome = true ↔ a?.isSome = true ∧ b?.isSome = true := by
  cases h with
  | known h => simp
  | noStart b? => simp
  | noEnd a? => simp

theorem secondsBetween_duration? {w w' : List Char} (hw : TimeText w) (hw' : TimeText w') :
    SecondsBetween (Timestamp.ofChars? w) (Timestamp.ofChars? w')
      (Step.duration? (Timestamp.ofChars? w) (Timestamp.ofChars? w')) := by
  cases ha : Timestamp.ofChars? w with
  | none => exact .noStart _
  | some a =>
    cases hb : Timestamp.ofChars? w' with
    | none => exact .noEnd _
    | some b =>
      obtain ⟨heq, hsome⟩ := Step.duration?_eq (year_of_timeText hw ha) (year_of_timeText hw' hb)
      obtain ⟨x, hx⟩ := Option.isSome_iff_exists.1 hsome
      rw [hx]
      exact .known (Step.isMillionth_of_secondsOfMicros? (heq.symm.trans hx))

namespace StepLog

/-- Two markers make a step. -/
theorem lines_markers (cap n n' : Nat) (t t' : MarkerText) :
    (start cap).lines [(t.line .started, n), (t'.line .finished, n')] =
      { start cap with
        closed := [(Step.begin (String.ofList t.name) 0 n t.marker.timestamp?).finish n'
          t'.marker.timestamp? t'.marker.result]
        lastLine := n' } := by
  simp only [lines, List.foldl_cons, List.foldl_nil, line, start, Marker.read?_line, enter, leave,
    closedAt]
  rfl

/-- **Markers are read back.** A line is a marker exactly when it has the parts of one, which it has
in one way, and the parts are what is read; of its time what the ASCII digits tell is read. The step
between two markers has the name of the first, the result behind the code of the second, and for its
duration the whole microseconds between the two times in seconds, which it has exactly when both
times are read. -/
theorem markers_decode (cap : Nat) :
    (∀ kind (t : MarkerText), Marker.read? kind (t.line kind) = some t.marker) ∧
    (∀ kind text, (Marker.read? kind text).isSome = true ↔ ∃! t : MarkerText, t.line kind = text) ∧
    (∀ (t : MarkerText) a, Timestamp.ofChars? t.time = some a ↔ TimeTells t.time a) ∧
    ∀ (t t' : MarkerText) (n n' : Nat), ∃ s : Step,
      (start cap).lines [(t.line .started, n), (t'.line .finished, n')] =
        { start cap with closed := [s], lastLine := n' } ∧
      s.name = String.ofList t.name ∧ CodeTells t'.code s.result ∧
      SecondsBetween (Timestamp.ofChars? t.time) (Timestamp.ofChars? t'.time) s.seconds? ∧
      (s.seconds?.isSome = true ↔
        (Timestamp.ofChars? t.time).isSome = true ∧
          (Timestamp.ofChars? t'.time).isSome = true) := by
  refine ⟨Marker.read?_line, Marker.isSome_read?_iff,
    fun t _ => t.time_text.ofChars?_eq_some_iff, fun t t' n n' => ?_⟩
  have hseconds := secondsBetween_duration? t.time_text t'.time_text
  exact ⟨_, lines_markers cap n n' t t', rfl, t'.codeTells, hseconds, hseconds.isSome_iff⟩

/-- A start marker just before the 29th of February. Its name ends like a marker. -/
def leapStart : String :=
  "========= Started a (results: 0, elapsed: 1 secs) (at 2016-02-28 23:59:59) ========= " ++
    "(results: 0, elapsed: 2 mins, 3 secs) (at 2016-02-28 23:59:59.9000009) ========="

/-- A finish marker on the day after the 29th of February. -/
def leapFinish : String :=
  "========= Finished b (results: 1, elapsed: 0 secs) (at 2016-03-01 00:00:00) ========="

/-- A finish marker with a code that is too long for a word, on a day that does not exist. -/
def wrongFinish : String :=
  "========= Finished b (results: 18446744073709551616, elapsed: 0 secs) " ++
    "(at 2017-02-29 00:00:00) ========="

/-- A start marker on the first of March in a year without a leap day. -/
def centuryStart : String :=
  "========= Started c (results: 0, elapsed: 1 secs) (at 2100-03-01 00:00:00) ========="

/-- A finish marker on the day before. -/
def centuryFinish : String :=
  "========= Finished c (results: 8, elapsed: 1 secs) (at 2100-02-28 23:59:59.5) ========="

theorem eq_of_closed_eq {ls : List (String × Nat)} {s : Step} {α : Type} {f : Step → α} {x : α}
    (hlines : (start 1).lines ls = { start 1 with closed := [s], lastLine := 2 })
    (hclosed : ((start 1).lines ls).closed.map f = [x]) : f s = x := by
  rw [hlines] at hclosed
  exact (List.cons.inj hclosed).1

/-- From a tenth of a second before the leap day to its end: a part of a microsecond is cut off, and
the seconds are no double and rounded. Then a step that finishes at no time, and one that finishes
before it starts. -/
theorem markers_decode_leapDay :
    (∃ s : Step,
      (start 1).lines [(leapStart, 1), (leapFinish, 2)] =
        { start 1 with closed := [s], lastLine := 2 } ∧
      s.name = "a (results: 0, elapsed: 1 secs) (at 2016-02-28 23:59:59) =========" ∧
      CodeTells ['1'] s.result ∧ s.result = .testfailed ∧
      SecondsBetween (Timestamp.ofChars? "2016-02-28 23:59:59.9000009".toList)
        (Timestamp.ofChars? "2016-03-01 00:00:00".toList) s.seconds? ∧
      s.seconds?.map (fun x => (x.negative, x.mantissa, x.exponent)) =
        some (false, 5937369661869354, -36)) ∧
    (∃ s : Step,
      (start 1).lines [(leapStart, 1), (wrongFinish, 2)] =
        { start 1 with closed := [s], lastLine := 2 } ∧
      s.result = .unknown ∧ s.seconds? = none) ∧
    ∃ s : Step,
      (start 1).lines [(centuryStart, 1), (centuryFinish, 2)] =
        { start 1 with closed := [s], lastLine := 2 } ∧
      s.result = .superseded ∧
      s.seconds?.map (fun x => (x.negative, x.mantissa, x.exponent)) = some (true, 2 ^ 52, -53) := by
  have hread : Marker.read? .started leapStart =
      some ⟨"a (results: 0, elapsed: 1 secs) (at 2016-02-28 23:59:59) =========".toList, ['0'],
        "2016-02-28 23:59:59.9000009".toList⟩ := by
    decide +kernel
  have hread' : Marker.read? .finished leapFinish =
      some ⟨['b'], ['1'], "2016-03-01 00:00:00".toList⟩ := by
    decide +kernel
  have hwrong : Marker.read? .finished wrongFinish =
      some ⟨['b'], "18446744073709551616".toList, "2017-02-29 00:00:00".toList⟩ := by
    decide +kernel
  have hcentury : Marker.read? .started centuryStart =
      some ⟨['c'], ['0'], "2100-03-01 00:00:00".toList⟩ := by
    decide +kernel
  have hcentury' : Marker.read? .finished centuryFinish =
      some ⟨['c'], ['8'], "2100-02-28 23:59:59.5".toList⟩ := by
    decide +kernel
  obtain ⟨-, -, -, hstep⟩ := markers_decode 1
  refine ⟨?_, ?_, ?_⟩
  · obtain ⟨t, ht, hname, -, htime⟩ := Marker.exists_of_read?_eq_some hread
    obtain ⟨t', ht', -, hcode', htime'⟩ := Marker.exists_of_read?_eq_some hread'
    obtain ⟨s, hlines, hs, hcode, hseconds, -⟩ := hstep t t' 1 2
    rw [ht, ht'] at hlines
    rw [hname] at hs
    rw [hcode'] at hcode
    rw [htime, htime'] at hseconds
    obtain ⟨hresult, hvalue⟩ := Prod.mk.inj <| eq_of_closed_eq
      (f := fun s => (s.result, s.seconds?.map fun x => (x.negative, x.mantissa, x.exponent)))
      (x := (.testfailed, some (false, 5937369661869354, -36))) hlines (by decide +kernel)
    exact ⟨s, hlines, hs, hcode, hresult, hseconds, hvalue⟩
  · obtain ⟨t, ht, -⟩ := Marker.exists_of_read?_eq_some hread
    obtain ⟨t', ht', -⟩ := Marker.exists_of_read?_eq_some hwrong
    obtain ⟨s, hlines, -⟩ := hstep t t' 1 2
    rw [ht, ht'] at hlines
    obtain ⟨hresult, hvalue⟩ := Prod.mk.inj <| eq_of_closed_eq
      (f := fun s => (s.result, s.seconds?)) (x := (.unknown, none)) hlines (by decide +kernel)
    exact ⟨s, hlines, hresult, hvalue⟩
  · obtain ⟨t, ht, -⟩ := Marker.exists_of_read?_eq_some hcentury
    obtain ⟨t', ht', -⟩ := Marker.exists_of_read?_eq_some hcentury'
    obtain ⟨s, hlines, -⟩ := hstep t t' 1 2
    rw [ht, ht'] at hlines
    obtain ⟨hresult, hvalue⟩ := Prod.mk.inj <| eq_of_closed_eq
      (f := fun s => (s.result, s.seconds?.map fun x => (x.negative, x.mantissa, x.exponent)))
      (x := (.superseded, some (true, 2 ^ 52, -53))) hlines (by decide +kernel)
    exact ⟨s, hlines, hresult, hvalue⟩

end StepLog
end JobLog
