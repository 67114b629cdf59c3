import JobLog.Proofs.Step.Duration
import JobLog.Proofs.Step.Marker

/-!
# The time of a marker

The time of a marker is read from its ASCII digits: each number has all of them, and of the fraction
the first nine count. Digits of other scripts may stand in a marker, but they tell no time.

* `TimeTells` is what a text of digits tells, and `TimeText.ofChars?_eq_some_iff` says that it is
  what is read.
* A number that is not ASCII alone leaves one of its digits behind (`Stuck`), and nothing that comes
  next in a time can be read there.
-/

namespace JobLog

open Text (isDigit isAsciiDigit)

/-- So many ASCII digits of a number. -/
structure WritesNumber (width : Nat) (w : List Char) (n : Nat) : Prop where
  length : w.length = width
  ascii : ∀ c ∈ w, c.isDigit = true
  value : Nat.ofDigitChars 10 w 0 = n

theorem WritesNumber.field {width n : Nat} {w : List Char} (h : WritesNumber width w n) :
    Field width w :=
  ⟨h.length, fun c hc => Text.isDigit_of_isAsciiDigit (h.ascii c hc)⟩

/-- The fraction of a second, in nanoseconds: of its digits nine count. -/
inductive WritesNanos : List Char → Nat → Prop
  | none : WritesNanos [] 0
  | digits {ds : List Char} (hne : ds ≠ []) (hascii : ∀ c ∈ ds, c.isDigit = true) :
      WritesNanos ('.' :: ds) (Nat.ofDigitChars 10 ((ds ++ List.replicate 9 '0').take 9) 0)

/-- The text tells the timestamp. -/
inductive TimeTells : List Char → Timestamp → Prop
  | intro {a : Timestamp} {year month day hour minute second fraction : List Char} {n : Nat}
      (hyear : WritesNumber 4 year n) (hsign : a.year = n) (hmonth : WritesNumber 2 month a.month)
      (hday : WritesNumber 2 day a.day) (hhour : WritesNumber 2 hour a.hour)
      (hminute : WritesNumber 2 minute a.minute) (hsecond : WritesNumber 2 second a.second)
      (hfraction : WritesNanos fraction a.nanos) :
      TimeTells (year ++ '-' :: (month ++ '-' :: (day ++ ' ' :: (hour ++ ':' :: (minute ++
        ':' :: (second ++ fraction)))))) a

namespace Timestamp

variable {w s r : List Char} {n k : Nat}

/-- A digit that is not one of ASCII comes next. -/
def Stuck (s : List Char) : Prop :=
  ∃ c r, s = c :: r ∧ isDigit c = true ∧ isAsciiDigit c = false

theorem readMark?_of_stuck (h : Stuck s) {m : Char} (hm : isDigit m = false) :
    readMark? m s = none := by
  obtain ⟨c, r, rfl, hc, -⟩ := h
  refine if_neg fun heq => ?_
  rw [heq, hm] at hc
  cases hc

theorem readField?_of_stuck (h : Stuck s) (width : Nat) : readField? width s = none := by
  obtain ⟨c, r, rfl, hc, hascii⟩ := h
  rw [readField?, Text.trimStart_of_isDigit hc]
  cases width with
  | zero => rfl
  | succ width =>
    rw [List.take_succ_cons, List.takeWhile_cons, hascii]
    rfl

theorem readFraction?_of_stuck (h : Stuck s) : readFraction? s = some (0, s) := by
  obtain ⟨c, r, rfl, hc, -⟩ := h
  unfold readFraction?
  split
  case h_1 heq =>
    obtain ⟨rfl, -⟩ := List.cons.inj heq
    exact absurd hc (by decide)
  case h_2 => rfl

/-- A number with other digits leaves the first of them behind. -/
theorem stuck_of_readField? (hw : Field n w) (hascii : ¬ ∀ c ∈ w, isAsciiDigit c = true)
    (h : readField? n (w ++ r) = some (k, s)) : Stuck s := by
  obtain ⟨hlength, hdigits⟩ := hw
  have htrim : Text.trimStart (w ++ r) = w ++ r := by
    cases w with
    | nil => exact absurd nofun hascii
    | cons c w => exact Text.trimStart_of_isDigit (hdigits c List.mem_cons_self) _
  have hne : w.dropWhile isAsciiDigit ≠ [] := fun hnil =>
    hascii (by simpa using List.dropWhile_eq_nil_iff.1 hnil)
  obtain ⟨c, w', hrest⟩ := List.exists_cons_of_ne_nil hne
  have hstuck : Stuck (w.dropWhile isAsciiDigit ++ r) := by
    refine ⟨c, w' ++ r, by rw [hrest, List.cons_append], hdigits c ?_, ?_⟩
    · exact (List.dropWhile_suffix isAsciiDigit).subset (hrest ▸ List.mem_cons_self)
    · exact Text.head?_dropWhile_run c (by rw [hrest]; rfl)
  rw [readField?, htrim, List.take_left' hlength] at h
  split at h
  case h_1 => cases h
  case h_2 ds =>
    obtain ⟨-, rfl⟩ := Prod.mk.inj (Option.some.inj h)
    have hsplit : w ++ r = w.takeWhile isAsciiDigit ++ (w.dropWhile isAsciiDigit ++ r) := by
      rw [← List.append_assoc, List.takeWhile_append_dropWhile]
    rwa [hsplit, List.drop_left]

/-- Where no other digit comes next, a number is read from ASCII digits. -/
theorem writesNumber_of_readField? (hn : n ≠ 0) (hw : Field n w)
    (h : readField? n (w ++ r) = some (k, s)) (hs : ¬ Stuck s) : WritesNumber n w k ∧ s = r := by
  by_cases hascii : ∀ c ∈ w, isAsciiDigit c = true
  · have hne : w ≠ [] := mt List.length_eq_zero_iff.2 (hw.1 ▸ hn)
    rw [readField?_digits hw.1 hne hascii] at h
    obtain ⟨rfl, rfl⟩ := Prod.mk.inj (Option.some.inj h)
    exact ⟨⟨hw.1, hascii, (Text.digitsValue_eq_ofDigitChars w).symm⟩, rfl⟩
  · exact absurd (stuck_of_readField? hw hascii h) hs

/-- A number in front of a character that is none of its digits. -/
theorem writesNumber_of_readMark? {m : Char} {s' : List Char} (hn : n ≠ 0) (hm : isDigit m = false)
    (hw : Field n w) (h : readField? n (w ++ m :: r) = some (k, s))
    (hmark : readMark? m s = some s') : WritesNumber n w k ∧ s' = r := by
  have hs : ¬ Stuck s := fun hs => by
    rw [readMark?_of_stuck hs hm] at hmark
    cases hmark
  obtain ⟨hwrites, rfl⟩ := writesNumber_of_readField? hn hw h hs
  rw [readMark?_cons] at hmark
  exact ⟨hwrites, (Option.some.inj hmark).symm⟩

theorem readField?_of_writesNumber (hn : n ≠ 0) (h : WritesNumber n w k) (r : List Char) :
    readField? n (w ++ r) = some (k, r) := by
  have hne : w ≠ [] := mt List.length_eq_zero_iff.2 (h.length ▸ hn)
  rw [readField?_digits h.length hne h.ascii, Text.digitsValue_eq_ofDigitChars, h.value]

theorem readYear?_append (hw : Field 4 w) (r : List Char) :
    readYear? (w ++ r) = (readField? 4 (w ++ r)).map fun x => ((x.1 : Int), x.2) := by
  obtain ⟨hlength, hdigits⟩ := hw
  obtain ⟨d, ds, rfl⟩ := List.exists_cons_of_length_eq_add_one hlength
  exact readYear?_cons (hdigits d List.mem_cons_self) _

theorem readFraction?_of_writesNanos {f : List Char} {nanos : Nat} (h : WritesNanos f nanos) :
    readFraction? f = some (nanos, []) := by
  cases h with
  | none => rfl
  | digits hne hascii =>
    rw [readFraction?_digits hne hascii, Text.digitsValue_eq_ofDigitChars]
    rfl

/-- The fraction is read to its end where its digits are ASCII. -/
theorem readFraction?_eq_some_iff {f : List Char} (hf : Fraction f) {nanos : Nat} :
    readFraction? f = some (nanos, []) ↔ WritesNanos f nanos := by
  constructor
  · intro h
    rcases hf with rfl | ⟨ds, ⟨hne, -⟩, rfl⟩
    · obtain ⟨rfl, -⟩ := Prod.mk.inj (Option.some.inj h)
      exact .none
    · have hascii : ∀ c ∈ ds, isAsciiDigit c = true := by
        unfold readFraction? at h
        split at h
        case h_1 r heq =>
          obtain ⟨-, rfl⟩ := List.cons.inj heq
          split at h
          case h_1 => cases h
          case h_2 =>
            obtain ⟨-, hnil⟩ := Prod.mk.inj (Option.some.inj h)
            simpa using List.dropWhile_eq_nil_iff.1 hnil
        case h_2 hdot => exact absurd rfl (hdot ds)
      rw [readFraction?_digits hne hascii, Text.digitsValue_eq_ofDigitChars] at h
      obtain ⟨rfl, -⟩ := Prod.mk.inj (Option.some.inj h)
      exact .digits hne hascii
  · exact readFraction?_of_writesNanos

end Timestamp

open Timestamp

theorem TimeTells.ofChars?_eq {w : List Char} {a : Timestamp} (h : TimeTells w a) :
    Timestamp.ofChars? w = some a := by
  obtain ⟨hyear, hsign, hmonth, hday, hhour, hminute, hsecond, hfraction⟩ := h
  rw [Timestamp.ofChars?, readYear?_append hyear.field,
    readField?_of_writesNumber (by decide) hyear]
  simp only [Option.bind_eq_bind, Option.map_some, Option.bind_some, readMark?_cons,
    readField?_of_writesNumber (by decide) hmonth, readField?_of_writesNumber (by decide) hday,
    readField?_cons_blank (show Text.isBlank ' ' = true from rfl),
    readField?_of_writesNumber (by decide) hhour, readField?_of_writesNumber (by decide) hminute,
    readField?_of_writesNumber (by decide) hsecond, readFraction?_of_writesNanos hfraction]
  exact ofNumbers?_eq_some_iff.2 ⟨hsign, rfl, rfl, rfl, rfl, rfl, rfl⟩

/-- The fields of a time. -/
theorem TimeText.exists_fields {w : List Char} (h : TimeText w) :
    ∃ year month day hour minute second fraction : List Char,
      (Field 4 year ∧ Field 2 month ∧ Field 2 day ∧ Field 2 hour ∧ Field 2 minute ∧
        Field 2 second ∧ Fraction fraction) ∧
      w = year ++ '-' :: (month ++ '-' :: (day ++ ' ' :: (hour ++ ':' :: (minute ++
        ':' :: (second ++ fraction))))) := by
  obtain ⟨_, fraction, ⟨year, _, hyear, ⟨_, _, rfl, ⟨month, _, hmonth, ⟨_, _, rfl,
    ⟨day, _, hday, ⟨_, _, rfl, ⟨hour, _, hhour, ⟨_, _, rfl, ⟨minute, _, hminute, ⟨_, _, rfl,
    ⟨second, _, hsecond, rfl, rfl⟩, rfl⟩, rfl⟩, rfl⟩, rfl⟩, rfl⟩, rfl⟩, rfl⟩, rfl⟩, rfl⟩, rfl⟩,
    hfraction, rfl⟩ := h
  exact ⟨year, month, day, hour, minute, second, fraction,
    ⟨hyear, hmonth, hday, hhour, hminute, hsecond, hfraction⟩, by simp⟩

/-- **The time of a marker is read from its ASCII digits.** -/
theorem TimeText.ofChars?_eq_some_iff {w : List Char} (hw : TimeText w) {a : Timestamp} :
    Timestamp.ofChars? w = some a ↔ TimeTells w a := by
  refine ⟨fun h => ?_, TimeTells.ofChars?_eq⟩
  obtain ⟨year, month, day, hour, minute, second, fraction,
    ⟨hyear, hmonth, hday, hhour, hminute, hsecond, hfraction⟩, rfl⟩ := hw.exists_fields
  simp only [Timestamp.ofChars?, Option.bind_eq_bind, Option.bind_eq_some_iff, Prod.exists,
    readYear?_append hyear, Option.map_eq_some_iff, Prod.mk.injEq] at h
  obtain ⟨_, _, ⟨y, _, hreadYear, rfl, rfl⟩, _, hdash, mo, _, hreadMonth, _, hdash', d, _, hreadDay,
    ho, _, hreadHour, _, hcolon, mi, _, hreadMinute, _, hcolon', se, s, hreadSecond, nanos, rest,
    hreadFraction, hnumbers⟩ := h
  obtain ⟨hy, rfl⟩ := writesNumber_of_readMark? (by decide) (by decide) hyear hreadYear hdash
  obtain ⟨hmo, rfl⟩ := writesNumber_of_readMark? (by decide) (by decide) hmonth hreadMonth hdash'
  -- behind the day comes no mark but the hour, and white space in front of it
  have hfree : ¬ Stuck _ := fun hs => by
    rw [readField?_of_stuck hs] at hreadHour
    cases hreadHour
  obtain ⟨hd, rfl⟩ := writesNumber_of_readField? (by decide) hday hreadDay hfree
  rw [readField?_cons_blank rfl] at hreadHour
  obtain ⟨hho, rfl⟩ := writesNumber_of_readMark? (by decide) (by decide) hhour hreadHour hcolon
  obtain ⟨hmi, rfl⟩ := writesNumber_of_readMark? (by decide) (by decide) hminute hreadMinute hcolon'
  split at hnumbers
  case isFalse => cases hnumbers
  case isTrue hempty =>
    obtain rfl := List.isEmpty_iff.1 hempty
    have hfree : ¬ Stuck s := fun hs => by
      rw [readFraction?_of_stuck hs] at hreadFraction
      obtain ⟨c, r, rfl, -⟩ := hs
      cases hreadFraction
    obtain ⟨hse, rfl⟩ := writesNumber_of_readField? (by decide) hsecond hreadSecond hfree
    obtain ⟨hyear', rfl, rfl, rfl, rfl, rfl, rfl⟩ := ofNumbers?_eq_some_iff.1 hnumbers
    exact .intro hy hyear' hmo hd hho hmi hse
      ((readFraction?_eq_some_iff hfraction).1 hreadFraction)

end JobLog
