import JobLog.Proofs.Decimal.Double
import JobLog.Proofs.Timestamp
import JobLog.Step.Basic
import Mathlib.Data.List.TakeWhile

/-!
# Durations that are known

A year that is written with four digits is not negative and has no more digits, so the time between
two timestamps with such years is a number of microseconds that a word holds and a double rounds.

* `Timestamp.year_of_ofChars?` gives the range of the year.
* `Timestamp.microsSince?_eq` is the difference of such timestamps.
* `Step.duration?_eq` is the duration of a step between them.
-/

namespace JobLog

namespace Text

/-- No decimal digit of any script is white space. -/
theorem not_isBlank_of_isDigit {c : Char} (h : isDigit c = true) : isBlank c = false := by
  have htables : ∀ z ∈ zeroes, ∀ r ∈ blankRanges, r.2 < z ∨ z + 10 ≤ r.1 := by decide
  obtain ⟨z, hz, hc⟩ := List.any_eq_true.1 h
  simp only [Bool.and_eq_true, decide_eq_true_eq] at hc
  rw [← Bool.not_eq_true, isBlank, inRanges_iff]
  rintro ⟨r, hr, hle⟩
  have hapart := htables z hz r hr
  omega

/-- No white space stands in front of a digit. -/
theorem trimStart_of_isDigit {c : Char} (h : isDigit c = true) (s : List Char) :
    trimStart (c :: s) = c :: s := by
  rw [trimStart, List.dropWhile_cons, not_isBlank_of_isDigit h]
  rfl

theorem digitsValue_lt {ds : List Char} (h : ∀ c ∈ ds, isAsciiDigit c = true) :
    digitsValue ds < 10 ^ ds.length := by
  rw [digitsValue_eq_ofDigitChars]
  induction ds with
  | nil => decide
  | cons c ds ih =>
    have hc := toNat_of_isAsciiDigit (h c List.mem_cons_self)
    have hds := ih fun d hd => h d (List.mem_cons_of_mem c hd)
    have hzero : '0'.toNat = 48 := rfl
    rw [Nat.ofDigitChars_cons, Nat.ofDigitChars_eq_ofDigitChars_zero, List.length_cons,
      Nat.pow_succ]
    have hdigit : 10 * 0 + (c.toNat - '0'.toNat) ≤ 9 := by omega
    have hmul := Nat.mul_le_mul_left (10 ^ ds.length) hdigit
    omega

end Text

namespace Timestamp

open Text (isDigit)

/-! ### The year -/

theorem readField?_lt {width n : Nat} {s r : List Char} (h : readField? width s = some (n, r)) :
    n < 10 ^ width := by
  unfold readField? at h
  split at h
  case h_1 => exact nomatch h
  case h_2 ds _ =>
    obtain ⟨rfl, -⟩ := Prod.mk.inj (Option.some.inj h)
    refine Nat.lt_of_lt_of_le (Text.digitsValue_lt fun c => List.mem_takeWhile_imp) ?_
    refine Nat.pow_le_pow_right (by decide) ?_
    exact (List.takeWhile_sublist _).length_le.trans (List.length_take_le ..)

/-- A year that starts with a digit has no sign. -/
theorem readYear?_cons {d : Char} (hd : isDigit d = true) (s : List Char) :
    readYear? (d :: s) = (readField? 4 (d :: s)).map fun x => ((x.1 : Int), x.2) := by
  rw [readYear?, Text.trimStart_of_isDigit hd]
  split
  case h_1 heq =>
    obtain ⟨rfl, -⟩ := List.cons.inj heq
    exact absurd hd (by decide)
  case h_2 heq =>
    obtain ⟨rfl, -⟩ := List.cons.inj heq
    exact absurd hd (by decide)
  case h_3 => rfl

/-- It has at most four digits. -/
theorem readYear?_of_isDigit {d : Char} {s r : List Char} {year : Int} (hd : isDigit d = true)
    (h : readYear? (d :: s) = some (year, r)) : 0 ≤ year ∧ year ≤ 9999 := by
  rw [readYear?_cons hd] at h
  obtain ⟨⟨n, r'⟩, hfield, heq⟩ := Option.map_eq_some_iff.1 h
  obtain ⟨rfl, -⟩ := Prod.mk.inj heq
  have hlt := readField?_lt hfield
  omega

theorem year_of_ofChars? {d : Char} {s : List Char} {t : Timestamp} (hd : isDigit d = true)
    (h : ofChars? (d :: s) = some t) : 0 ≤ t.year ∧ t.year ≤ 9999 := by
  simp only [ofChars?, Option.bind_eq_bind, Option.bind_eq_some_iff, Prod.exists] at h
  obtain ⟨year, _, hyear, _, _, month, _, _, _, _, day, _, _, hour, _, _, _, _, minute, _, _, _, _,
    second, _, _, nanos, _, _, hnumbers⟩ := h
  split at hnumbers
  case isTrue =>
    rw [(ofNumbers?_eq_some_iff.1 hnumbers).1]
    exact readYear?_of_isDigit hd hyear
  case isFalse => cases hnumbers

/-! ### Differences -/

theorem daysBefore_le (year : Int) (month : Nat) : daysBefore year month ≤ 31 * month := by
  induction month with
  | zero => exact Nat.le_refl 0
  | succ month ih =>
    have hmonth := daysInMonth_le year (month + 1)
    rw [daysBefore]
    omega

theorem dayNumber_bounds {t : Timestamp} (h : 0 ≤ t.year ∧ t.year ≤ 9999) :
    -400 ≤ t.dayNumber ∧ t.dayNumber ≤ 3660000 := by
  obtain ⟨-, ⟨hmonth, hmonth'⟩, ⟨hday, hday'⟩, -⟩ := t.valid
  have hlast := daysInMonth_le t.year t.month
  have hbefore := daysBefore_le t.year (t.month - 1)
  simp only [dayNumber]
  omega

theorem secondOfDay_lt (t : Timestamp) : t.secondOfDay < 86400 := by
  obtain ⟨-, -, -, hhour, hminute, -⟩ := t.valid
  rw [secondOfDay]
  omega

theorem fraction_lt (t : Timestamp) : t.fraction < 2000000000 := by
  obtain ⟨-, -, -, -, -, -, hnanos⟩ := t.valid
  rw [fraction]
  split <;> omega

theorem leapBetween_bounds (later earlier : Timestamp) :
    -1 ≤ leapBetween later earlier ∧ leapBetween later earlier ≤ 1 := by
  unfold leapBetween
  split
  · split <;> decide
  · split
    · split <;> decide
    · decide

/-- The difference of timestamps with years of four digits, in whole microseconds. -/
theorem microsSince?_eq {later earlier : Timestamp} (hlater : 0 ≤ later.year ∧ later.year ≤ 9999)
    (hearlier : 0 ≤ earlier.year ∧ earlier.year ≤ 9999) :
    later.microsSince? earlier = some ((nanosSince later earlier).tdiv 1000) ∧
      ((nanosSince later earlier).tdiv 1000).natAbs < 2 ^ 62 := by
  have hday := dayNumber_bounds hlater
  have hday' := dayNumber_bounds hearlier
  have hsecond := secondOfDay_lt later
  have hsecond' := secondOfDay_lt earlier
  have hfraction := fraction_lt later
  have hfraction' := fraction_lt earlier
  have hleap := leapBetween_bounds later earlier
  have hnanos : (nanosSince later earlier).natAbs < 1000 * 2 ^ 62 := by
    rw [nanosSince]
    omega
  have hmicros : ((nanosSince later earlier).tdiv 1000).natAbs < 2 ^ 62 := by
    rw [Int.natAbs_tdiv]
    exact (Nat.div_lt_iff_lt_mul (by decide)).2 (by omega)
  refine ⟨if_pos ?_, hmicros⟩
  have hmax : maxMicros = 2 ^ 63 - 1 := rfl
  rw [hmax]
  omega

end Timestamp

namespace Step

theorem isSome_secondsOfMicros? {us : Int} (h : us.natAbs < 2 ^ 62) :
    (secondsOfMicros? us).isSome = true := by
  obtain ⟨x, hx, hexponent⟩ := Double.exists_ofInt?_eq (n := us) (Nat.lt_trans h (by decide))
  obtain ⟨y, hy, hmantissa, hexponent'⟩ := Double.exists_ofInt?_million
  have hdiv : (x.div? y).isSome = true :=
    Double.isSome_div? (by rw [hmantissa]; decide) hexponent (Int.le_of_eq hexponent'.symm)
  rw [secondsOfMicros?, hx, hy]
  exact hdiv

/-- The duration of a step between timestamps with years of four digits is known. -/
theorem duration?_eq {started finished : Timestamp}
    (hstarted : 0 ≤ started.year ∧ started.year ≤ 9999)
    (hfinished : 0 ≤ finished.year ∧ finished.year ≤ 9999) :
    duration? (some started) (some finished) =
        secondsOfMicros? ((finished.nanosSince started).tdiv 1000) ∧
      (duration? (some started) (some finished)).isSome = true := by
  obtain ⟨hmicros, hlt⟩ := Timestamp.microsSince?_eq hfinished hstarted
  have hduration : duration? (some started) (some finished) =
      secondsOfMicros? ((finished.nanosSince started).tdiv 1000) := by
    simp only [duration?, Option.bind_eq_bind, Option.bind_some, hmicros]
  exact ⟨hduration, hduration ▸ isSome_secondsOfMicros? hlt⟩

end Step
end JobLog
