import JobLog.Proofs.Text.Digit
import JobLog.Timestamp

/-!
# Timestamps that are read back

What is written for a timestamp reads as the timestamp, whatever its year, in a leap second or
not, with any fraction.

* `readField?_padded`, `readYear?_writeYear` and `readFraction?_writeFraction` are the parts.
* `read?_write` is the whole.
-/

namespace JobLog.Timestamp

open Text (isAsciiDigit padded)

/-! ### Numbers -/

/-- ASCII digits are read as their number. -/
theorem readField?_digits {width : Nat} {w : List Char} (hw : w.length = width) (hne : w ≠ [])
    (hascii : ∀ c ∈ w, isAsciiDigit c = true) (rest : List Char) :
    readField? width (w ++ rest) = some (Text.digitsValue w, rest) := by
  have htake : ((w ++ rest).take width).takeWhile isAsciiDigit = w := by
    rw [List.take_left' hw, Text.takeWhile_all_digits hascii]
  rw [readField?, Text.trimStart_digits hne hascii, htake]
  split
  case h_1 => exact absurd rfl hne
  case h_2 => rw [List.drop_left]

theorem readField?_padded {width n : Nat} (hwidth : 0 < width) (h : n < 10 ^ width)
    (rest : List Char) : readField? width (padded width n ++ rest) = some (n, rest) := by
  rw [readField?_digits (Text.length_padded hwidth h) (Text.padded_ne_nil width n)
    (fun c => Text.isAsciiDigit_of_mem_padded), Text.digitsValue_padded]

/-- White space in front of a number is passed over. -/
theorem readField?_cons_blank {c : Char} (hc : Text.isBlank c = true) (width : Nat)
    (s : List Char) : readField? width (c :: s) = readField? width s := by
  have htrim : Text.trimStart (c :: s) = Text.trimStart s := by
    rw [Text.trimStart, List.dropWhile_cons, if_pos hc]
    rfl
  rw [readField?, readField?, htrim]

@[simp] theorem readMark?_cons (c : Char) (s : List Char) : readMark? c (c :: s) = some s :=
  if_pos rfl

/-! ### The year -/

theorem signed_padded {rest : List Char} (hrest : ∀ c ∈ rest.head?, isAsciiDigit c = false)
    (width n : Nat) : readYear?.signed (padded width n ++ rest) = some (n, rest) := by
  have hne := Text.padded_ne_nil width n
  have hdigits := fun c => @Text.isAsciiDigit_of_mem_padded width n c
  rw [readYear?.signed, Text.takeWhile_digits hdigits hrest]
  split
  case h_1 hnil => exact absurd hnil hne
  case h_2 => rw [Text.digitsValue_padded, List.drop_left]

section

variable {s rest : List Char} {n : Nat}

theorem readYear?_minus (h : readYear?.signed s = some (n, rest)) :
    readYear? ('-' :: s) = some (-(n : Int), rest) := by
  show (readYear?.signed s).map _ = _
  rw [h]
  rfl

theorem readYear?_plus (h : readYear?.signed s = some (n, rest)) :
    readYear? ('+' :: s) = some ((n : Int), rest) := by
  show (readYear?.signed s).map _ = _
  rw [h]
  rfl

theorem readYear?_unsigned {d : Char} (hd : isAsciiDigit d = true)
    (h : readField? 4 (d :: s) = some (n, rest)) : readYear? (d :: s) = some ((n : Int), rest) := by
  have htrim : Text.trimStart (d :: s) = d :: s := by
    rw [Text.trimStart, List.dropWhile_cons, Text.not_isBlank_of_isAsciiDigit hd]
    rfl
  rw [readYear?, htrim]
  split
  case h_1 r hminus =>
    obtain ⟨rfl, -⟩ := List.cons.inj hminus
    exact absurd hd (by decide)
  case h_2 r hplus =>
    obtain ⟨rfl, -⟩ := List.cons.inj hplus
    exact absurd hd (by decide)
  case h_3 =>
    rw [h]
    rfl

end

theorem readYear?_writeYear (year : Int) {rest : List Char}
    (hrest : ∀ c ∈ rest.head?, isAsciiDigit c = false) :
    readYear? (writeYear year ++ rest) = some (year, rest) := by
  unfold writeYear
  split
  case isTrue hyear =>
    have hfield := readField?_padded (n := year.toNat) (by decide : 0 < 4) (by omega) rest
    obtain ⟨d, ds, hds⟩ := List.exists_cons_of_ne_nil (Text.padded_ne_nil 4 year.toNat)
    have hd : isAsciiDigit d = true :=
      Text.isAsciiDigit_of_mem_padded (hds ▸ List.mem_cons_self ..)
    rw [hds, List.cons_append] at hfield ⊢
    rw [readYear?_unsigned hd hfield, Int.toNat_of_nonneg hyear.1]
  case isFalse hyear =>
    have hsigned := signed_padded hrest 4 year.natAbs
    split
    case isTrue hneg =>
      have habs : -(year.natAbs : Int) = year := by omega
      rw [List.cons_append, readYear?_minus hsigned, habs]
    case isFalse hpos =>
      rw [List.cons_append, readYear?_plus hsigned, Int.natAbs_of_nonneg (by omega)]

/-! ### The fraction -/

theorem readFraction?_digits {ds : List Char} (hne : ds ≠ [])
    (hds : ∀ c ∈ ds, isAsciiDigit c = true) :
    readFraction? ('.' :: ds) = some (Text.digitsValue (nineDigits ds), []) := by
  rw [readFraction?, Text.takeWhile_all_digits hds, Text.dropWhile_all_digits hds]
  cases ds with
  | nil => exact absurd rfl hne
  | cons => rfl

/-- A fraction of fewer than nine digits counts larger parts of a second. -/
theorem digitsValue_nineDigits {width n : Nat} (hwidth : 0 < width) (hnine : width ≤ 9)
    (h : n < 10 ^ width) :
    Text.digitsValue (nineDigits (padded width n)) = 10 ^ (9 - width) * n := by
  have hlength := Text.length_padded hwidth h
  rw [nineDigits, List.take_append, hlength, List.take_of_length_le (by omega),
    List.take_replicate, Nat.min_eq_left (Nat.sub_le ..), Text.digitsValue_append_zeros,
    Text.digitsValue_padded]

theorem readFraction?_writeFraction {nanos : Nat} (h : nanos < 1000000000) :
    readFraction? (writeFraction nanos) = some (nanos, []) := by
  have hread : ∀ {width n : Nat}, 0 < width → width ≤ 9 → n < 10 ^ width →
      readFraction? ('.' :: padded width n) = some (10 ^ (9 - width) * n, []) := by
    intro width n hwidth hnine hn
    rw [readFraction?_digits (Text.padded_ne_nil width n)
      (fun c => Text.isAsciiDigit_of_mem_padded), digitsValue_nineDigits hwidth hnine hn]
  unfold writeFraction
  split
  case isTrue hzero =>
    subst hzero
    rfl
  case isFalse =>
    split
    case isTrue hmillis =>
      rw [hread (by decide) (by decide) (by omega)]
      congr 2
      omega
    case isFalse =>
      split
      case isTrue hmicros =>
        rw [hread (by decide) (by decide) (by omega)]
        congr 2
        omega
      case isFalse =>
        rw [hread (by decide) (by decide) (by omega)]
        congr 2
        omega

/-! ### The whole -/

theorem daysInMonth_le (year : Int) (month : Nat) : daysInMonth year month ≤ 31 := by
  unfold daysInMonth
  split
  · split <;> decide
  · split <;> decide

theorem ofNumbers?_self (t : Timestamp) :
    ofNumbers? t.year t.month t.day t.hour t.minute t.second t.nanos = some t :=
  dif_pos t.valid

theorem ofNumbers?_eq_some_iff {year : Int} {month day hour minute second nanos : Nat}
    {t : Timestamp} :
    ofNumbers? year month day hour minute second nanos = some t ↔
      t.year = year ∧ t.month = month ∧ t.day = day ∧ t.hour = hour ∧ t.minute = minute ∧
        t.second = second ∧ t.nanos = nanos := by
  constructor
  · intro h
    unfold ofNumbers? at h
    split at h
    case isTrue =>
      cases h
      exact ⟨rfl, rfl, rfl, rfl, rfl, rfl, rfl⟩
    case isFalse => cases h
  · rintro ⟨rfl, rfl, rfl, rfl, rfl, rfl, rfl⟩
    exact ofNumbers?_self t

/-- **A timestamp is read back from what is written for it.** -/
theorem read?_write (t : Timestamp) : read? t.write = some t := by
  obtain ⟨-, ⟨-, hmonth⟩, ⟨-, hday⟩, hhour, hminute, hsecond, hnanos⟩ := t.valid
  have hlast := daysInMonth_le t.year t.month
  have htwo : ∀ {n : Nat}, n < 100 → ∀ rest, readField? 2 (padded 2 n ++ rest) = some (n, rest) :=
    fun h => readField?_padded (by decide) h
  rw [read?, write, String.toList_ofList, ofChars?]
  -- each part is read in front of all that stands behind it
  simp only [List.append_assoc, List.cons_append]
  rw [readYear?_writeYear t.year (fun c hc => by obtain rfl := Option.some.inj hc; rfl)]
  simp only [Option.bind_eq_bind, Option.bind_some, readMark?_cons,
    htwo (show t.month < 100 by omega), htwo (show t.day < 100 by omega),
    readField?_cons_blank (show Text.isBlank ' ' = true from rfl),
    htwo (show t.hour < 100 by omega), htwo (show t.minute < 100 by omega),
    htwo (show t.second < 100 by omega), readFraction?_writeFraction hnanos]
  exact ofNumbers?_self t

end JobLog.Timestamp
