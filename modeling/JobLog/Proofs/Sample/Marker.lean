import JobLog.Proofs.Decimal.Exact
import JobLog.Proofs.Sample.Reading
import JobLog.Proofs.Step.Marker

/-!
# The markers of sample logs

A marker is read from its line with the name of its step, its code and its time. The clock of a log
goes on over midnight while the date stays, so a step that passes midnight seems to end before it
starts.

* `read?_marker` reads a marker, `ofChars?_timestamp` its time.
* `duration?_pointAt` is the time between two markers.
* `printable_marker`, `length_marker_le`, `ofLine?_marker` and `payloadsOf_marker`: the line is read
  as it is, and it reports nothing else.
-/

namespace JobLog.Sample

open ErrorGrammar (Digits)
open Text (Printable)

/-! ### Times -/

/-- A time of the log; the date is always the same. -/
def pointAt (secs : Nat) : Timestamp where
  year := 2016
  month := 7
  day := 13
  hour := secs / 3600 % 24
  minute := secs / 60 % 60
  second := secs % 60
  nanos := 0
  valid := ⟨by decide, by decide, by decide, by omega, by omega, by omega, by decide⟩

theorem timestamp_eq (secs : Nat) : timestamp secs = "2016-07-13 ".toList ++ clock secs := rfl

theorem write_pointAt (secs : Nat) : (pointAt secs).write = String.ofList (timestamp secs) := by
  have hdate : Timestamp.writeYear 2016 ++ '-' :: Text.padded 2 7 ++ '-' :: Text.padded 2 13 ++
      [' '] = "2016-07-13 ".toList := by
    decide
  have hfraction : Timestamp.writeFraction 0 = [] := rfl
  rw [Timestamp.write, timestamp_eq, clock, ← hdate]
  simp [pointAt, hfraction]

theorem ofChars?_timestamp (secs : Nat) :
    Timestamp.ofChars? (timestamp secs) = some (pointAt secs) := by
  have hread := Timestamp.read?_write (pointAt secs)
  rwa [write_pointAt, Timestamp.read?, String.toList_ofList] at hread

/-- The seconds from a time to a later one as the clock tells them: one that passes midnight is a
day short. -/
def secondsOf (started elapsed : Nat) : Int :=
  if started % 86400 + elapsed < 86400 then elapsed else elapsed - 86400

theorem natAbs_secondsOf_lt {started elapsed : Nat} (h : elapsed < 86400) :
    (secondsOf started elapsed).natAbs < 2 ^ 33 := by
  rw [secondsOf]
  split <;> omega

theorem nanosSince_pointAt {started elapsed : Nat} (h : elapsed < 86400) :
    (pointAt (started + elapsed)).nanosSince (pointAt started) =
      secondsOf started elapsed * 1000000000 := by
  have hsecond : ∀ secs, (pointAt secs).secondOfDay = secs % 86400 := by
    intro secs
    simp only [Timestamp.secondOfDay, pointAt]
    omega
  have hleap : ∀ secs, (pointAt secs).isLeap = false := by
    intro secs
    simp only [Timestamp.isLeap, pointAt, beq_eq_false_iff_ne]
    omega
  have hbetween : Timestamp.leapBetween (pointAt (started + elapsed)) (pointAt started) = 0 := by
    simp [Timestamp.leapBetween, hleap]
  have hfraction : ∀ secs, (pointAt secs).fraction = 0 := by
    intro secs
    rw [Timestamp.fraction, hleap]
    rfl
  have hday : (pointAt (started + elapsed)).dayNumber = (pointAt started).dayNumber := rfl
  rw [Timestamp.nanosSince, hbetween, hfraction, hfraction, hsecond, hsecond, hday, secondsOf]
  split <;> omega

/-- **The time between two markers** is a whole number of seconds. -/
theorem duration?_pointAt {started elapsed : Nat} (h : elapsed < 86400) :
    Step.duration? (some (pointAt started)) (some (pointAt (started + elapsed))) =
      Double.ofInt? (secondsOf started elapsed) := by
  have hyear : ∀ secs, 0 ≤ (pointAt secs).year ∧ (pointAt secs).year ≤ 9999 := fun _ => by
    simp [pointAt]
  have hmicros : (secondsOf started elapsed * 1000000000).tdiv 1000 =
      secondsOf started elapsed * 1000000 := by
    have hthousand : secondsOf started elapsed * 1000000000 =
        secondsOf started elapsed * 1000000 * 1000 := by
      omega
    rw [hthousand]
    exact Int.mul_tdiv_cancel _ (by decide)
  rw [(Step.duration?_eq (hyear started) (hyear _)).1, nanosSince_pointAt h, hmicros,
    Step.secondsOfMicros?_seconds (natAbs_secondsOf_lt h)]

/-! ### Reading a marker -/

theorem timeText_timestamp (secs : Nat) : TimeText (timestamp secs) := by
  have hfield : ∀ n, n < 100 → Field 2 (Text.padded 2 n) := fun n hn =>
    ⟨length_padded_two hn, (digits_padded 2 n).2⟩
  have hyear : Field 4 "2016".toList := ⟨rfl, List.all_eq_true.1 rfl⟩
  have hmonth : Field 2 "07".toList := ⟨rfl, List.all_eq_true.1 rfl⟩
  have hday : Field 2 "13".toList := ⟨rfl, List.all_eq_true.1 rfl⟩
  refine ⟨timestamp secs, [], ?_, .inl rfl, (List.append_nil _).symm⟩
  refine ⟨_, _, hyear, ⟨_, _, rfl, ⟨_, _, hmonth, ⟨_, _, rfl, ⟨_, _, hday, ⟨_, _, rfl,
    ⟨_, _, hfield (secs / 3600 % 24) (by omega), ⟨_, _, rfl,
    ⟨_, _, hfield (secs / 60 % 60) (by omega), ⟨_, _, rfl,
    ⟨_, _, hfield (secs % 60) (by omega), rfl, rfl⟩, rfl⟩, rfl⟩, rfl⟩, rfl⟩, rfl⟩, rfl⟩, rfl⟩,
    rfl⟩, rfl⟩, ?_⟩
  rw [timestamp_eq, clock]
  simp

/-- The name of a step. -/
def stepName (step : Nat) : List Char := "step-".toList ++ Text.decimal step

theorem stepName_eq (step : Nat) : stepName step = "step-".toList ++ Text.decimal step := rfl

theorem printable_stepName (step : Nat) : Printable (stepName step) := by
  rw [stepName_eq, Text.printable_append_iff]
  exact ⟨by decide, Text.printable_decimal step⟩

/-- The parts of a marker. -/
def markerText (step code elapsed secs : Nat) : MarkerText where
  code := Text.decimal code
  minutes? := none
  seconds := Text.decimal elapsed
  time := timestamp secs
  code_digits := digits_decimal code
  minutes_digits := nofun
  seconds_digits := digits_decimal elapsed
  time_text := timeText_timestamp secs
  name := stepName step
  name_ne_nil := List.cons_ne_nil _ _
  name_inLine := (printable_stepName step).not_mem (by decide)

/-- A marker as a line. -/
abbrev markerLine (kind : MarkerKind) (step code elapsed secs : Nat) : String :=
  String.ofList (marker kind.word step code elapsed secs)

theorem marker_eq (kind : String) (step code elapsed secs : Nat) :
    marker kind step code elapsed secs =
      "========= ".toList ++ kind.toList ++ " step-".toList ++ Text.decimal step
        ++ " (results: ".toList ++ Text.decimal code ++ ", elapsed: ".toList
        ++ Text.decimal elapsed ++ " secs) (at ".toList ++ timestamp secs
        ++ ") =========".toList := rfl

theorem line_markerText (kind : MarkerKind) (step code elapsed secs : Nat) :
    (markerText step code elapsed secs).line kind = markerLine kind step code elapsed secs := by
  have hname : " step-".toList = " ".toList ++ "step-".toList := by decide
  have hchars : (markerLine kind step code elapsed secs).toList =
      marker kind.word step code elapsed secs := String.toList_ofList
  rw [← String.toList_inj, MarkerText.toList_line, hchars, marker_eq, hname, MarkerTail.text_eq]
  simp only [markerText, stepName_eq, minutesText, List.append_assoc, List.nil_append]

/-- **A marker is read from its line.** -/
theorem read?_marker (kind : MarkerKind) (step code elapsed secs : Nat) :
    Marker.read? kind (markerLine kind step code elapsed secs) =
      some ⟨stepName step, Text.decimal code, timestamp secs⟩ := by
  rw [← line_markerText]
  exact Marker.read?_line kind _

/-- The result of a code. -/
theorem result_marker (step : Nat) {code : Nat} (h : code < Text.wordBound) (secs : Nat) :
    (⟨stepName step, Text.decimal code, timestamp secs⟩ : Marker).result = .ofCode code := by
  have hread : Text.readDigits? (Text.decimal code) = some code := by
    rw [Text.readDigits?, Text.digitsValue_decimal]
    refine if_pos ⟨Nat.toDigits_ne_nil, ?_, h⟩
    exact List.all_eq_true.2 fun _ => Text.isAsciiDigit_of_mem_decimal
  rw [Marker.result, hread]

/-! ### The whole line -/

theorem printable_marker (kind : MarkerKind) (step code elapsed secs : Nat) :
    Printable (marker kind.word step code elapsed secs) := by
  have hkind : Printable kind.word.toList := by cases kind <;> decide
  rw [marker_eq, timestamp_eq]
  simp only [Text.printable_append_iff, hkind, Text.printable_decimal, printable_clock, and_true]
  decide

theorem length_marker_le (kind : MarkerKind) {step code elapsed : Nat} (secs : Nat)
    (hstep : step < Text.wordBound) (hcode : code < Text.wordBound)
    (helapsed : elapsed < Text.wordBound) :
    (marker kind.word step code elapsed secs).length ≤ 500 := by
  have hdecimal : ∀ {n : Nat}, n < Text.wordBound → (Text.decimal n).length ≤ 20 := fun h =>
    (Nat.length_toDigits_le_iff (by decide) (by decide)).2 (Nat.lt_trans h (by decide))
  have hkind : kind.word.toList.length ≤ 8 := by cases kind <;> decide
  have hstep := hdecimal hstep
  have hcode := hdecimal hcode
  have helapsed := hdecimal helapsed
  rw [marker_eq, timestamp_eq]
  simp only [List.length_append, length_clock, String.reduceToList, List.length_cons,
    List.length_nil] at hkind ⊢
  omega

/-- A marker has no other mark. -/
theorem not_isInfix_marker (kind : MarkerKind) (step code elapsed secs : Nat) {w : List Char}
    (h : 'T' ∈ w) : ¬ w <:+: marker kind.word step code elapsed secs := by
  have hkind : 'T' ∉ kind.word.toList := by cases kind <;> decide
  have hdecimal : ∀ n, 'T' ∉ Text.decimal n := fun n => not_mem_decimal n (by decide)
  have hclock : 'T' ∉ clock secs := not_mem_clock secs (by decide) (by decide)
  refine not_isInfix_of_mem h ?_
  rw [marker_eq, timestamp_eq]
  simp only [List.mem_append, hkind, hdecimal, hclock, or_false]
  decide

theorem ofLine?_marker (kind : MarkerKind) (step code elapsed secs : Nat) :
    JobDetail.ofLine? (markerLine kind step code elapsed secs) = none :=
  ofLine?_of_not_isInfix (printable_marker kind step code elapsed secs)
    (not_isInfix_marker _ _ _ _ _ (by decide))

theorem payloadsOf_marker (kind : MarkerKind) (step code elapsed secs : Nat) :
    Performance.payloadsOf (markerLine kind step code elapsed secs) = [] :=
  payloadsOf_of_not_isInfix (not_isInfix_marker _ _ _ _ _ (by decide))
    (not_isInfix_marker _ _ _ _ _ (by decide))

end JobLog.Sample
