import JobLog.Text.Blank
import JobLog.Text.Digit
import JobLog.Text.Padded
import Mathlib.Algebra.Group.Nat.Defs

/-!
# Decimal digits that are read back

The digits of a number, with zeros in front of them or not, read as the number.

* `digitsValue_padded` is the value, `length_padded` the width.
* `takeWhile_digits` and `dropWhile_digits` cut a row of digits off what stands behind it.
-/

namespace JobLog.Text

theorem digitsValue_eq_ofDigitChars (ds : List Char) :
    digitsValue ds = Nat.ofDigitChars 10 ds 0 := Nat.ofDigitChars_eq_foldl.symm

theorem digitsValue_decimal (n : Nat) : digitsValue (decimal n) = n := by
  rw [digitsValue_eq_ofDigitChars, decimal, Nat.ofDigitChars_ten_toDigits]

theorem digitsValue_zeroPadded (width : Nat) (ds : List Char) :
    digitsValue (zeroPadded width ds) = digitsValue ds := by
  rw [digitsValue_eq_ofDigitChars, digitsValue_eq_ofDigitChars, zeroPadded,
    Nat.ofDigitChars_append, Nat.ofDigitChars_replicate_zero, Nat.mul_zero]

/-- Zeros in front do not change a number. -/
theorem digitsValue_padded (width n : Nat) : digitsValue (padded width n) = n := by
  rw [padded, digitsValue_zeroPadded, digitsValue_decimal]

/-- Zeros behind a number multiply it. -/
theorem digitsValue_append_zeros (ds : List Char) (count : Nat) :
    digitsValue (ds ++ List.replicate count '0') = 10 ^ count * digitsValue ds := by
  rw [digitsValue_eq_ofDigitChars, digitsValue_eq_ofDigitChars, Nat.ofDigitChars_append,
    Nat.ofDigitChars_replicate_zero]

theorem isAsciiDigit_eq_isDigit (c : Char) : isAsciiDigit c = c.isDigit := rfl

theorem isAsciiDigit_of_mem_decimal {n : Nat} {c : Char} (h : c ∈ decimal n) :
    isAsciiDigit c = true := by
  rw [isAsciiDigit_eq_isDigit]
  exact Nat.isDigit_of_mem_toDigits (by decide) (by decide) h

theorem isAsciiDigit_of_mem_padded {width n : Nat} {c : Char} (h : c ∈ padded width n) :
    isAsciiDigit c = true := by
  rcases List.mem_append.1 h with h | h
  · rw [(List.mem_replicate.1 h).2]
    rfl
  · exact isAsciiDigit_of_mem_decimal h

theorem padded_ne_nil (width n : Nat) : padded width n ≠ [] :=
  fun h => Nat.toDigits_ne_nil (List.append_eq_nil_iff.1 h).2

/-- A number that fits into the width has this width. -/
theorem length_padded {width n : Nat} (hwidth : 0 < width) (h : n < 10 ^ width) :
    (padded width n).length = width := by
  have hle := (Nat.length_toDigits_le_iff (by decide) hwidth).2 h
  rw [padded, zeroPadded, List.length_append, List.length_replicate, decimal]
  omega

theorem toNat_of_isAsciiDigit {c : Char} (h : isAsciiDigit c = true) :
    48 ≤ c.toNat ∧ c.toNat ≤ 57 := by
  obtain ⟨hzero, hnine⟩ := Bool.and_eq_true_iff.1 h
  exact ⟨Char.le_def.1 (of_decide_eq_true hzero), Char.le_def.1 (of_decide_eq_true hnine)⟩

theorem not_isBlank_of_isAsciiDigit {c : Char} (h : isAsciiDigit c = true) :
    isBlank c = false := by
  obtain ⟨hzero, hnine⟩ := toNat_of_isAsciiDigit h
  simp only [isBlank, inRanges, blankRanges, List.any_cons, List.any_nil, Bool.or_eq_false_iff,
    Bool.and_eq_false_iff, decide_eq_false_iff_not, Nat.not_le, and_true]
  omega

/-- A decimal digit is one of ASCII or stands behind all of ASCII. -/
theorem toNat_of_isDigit {c : Char} (h : isDigit c = true) :
    (48 ≤ c.toNat ∧ c.toNat ≤ 57) ∨ 0x660 ≤ c.toNat := by
  have htable : ∀ z ∈ zeroes, z = 48 ∨ 0x660 ≤ z := by decide
  obtain ⟨z, hz, hc⟩ := List.any_eq_true.1 h
  simp only [Bool.and_eq_true, decide_eq_true_eq] at hc
  have hzero := htable z hz
  omega

/-- The digits of ASCII are one of the blocks. -/
theorem isDigit_of_isAsciiDigit {c : Char} (h : isAsciiDigit c = true) : isDigit c = true := by
  have hc := toNat_of_isAsciiDigit h
  refine List.any_eq_true.2 ⟨0x30, by decide, ?_⟩
  simp only [Bool.and_eq_true, decide_eq_true_eq]
  omega

/-! ### Rows of digits -/

variable {ds rest : List Char}

theorem takeWhile_digits (hds : ∀ c ∈ ds, isAsciiDigit c = true)
    (hrest : ∀ c ∈ rest.head?, isAsciiDigit c = false) :
    (ds ++ rest).takeWhile isAsciiDigit = ds := by
  rw [List.takeWhile_append_of_pos hds]
  cases rest with
  | nil => simp
  | cons c rest => simp [hrest c rfl]

theorem dropWhile_digits (hds : ∀ c ∈ ds, isAsciiDigit c = true)
    (hrest : ∀ c ∈ rest.head?, isAsciiDigit c = false) :
    (ds ++ rest).dropWhile isAsciiDigit = rest := by
  rw [List.dropWhile_append_of_pos hds]
  cases rest with
  | nil => rfl
  | cons c rest => simp [hrest c rfl]

theorem takeWhile_all_digits (hds : ∀ c ∈ ds, isAsciiDigit c = true) :
    ds.takeWhile isAsciiDigit = ds := by
  have htake : (ds ++ []).takeWhile isAsciiDigit = ds := takeWhile_digits hds nofun
  rwa [List.append_nil] at htake

theorem dropWhile_all_digits (hds : ∀ c ∈ ds, isAsciiDigit c = true) :
    ds.dropWhile isAsciiDigit = [] := by
  have hdrop : (ds ++ []).dropWhile isAsciiDigit = [] := dropWhile_digits hds nofun
  rwa [List.append_nil] at hdrop

/-- No white space stands in front of a row of digits. -/
theorem trimStart_digits (hne : ds ≠ []) (hds : ∀ c ∈ ds, isAsciiDigit c = true)
    (rest : List Char) : trimStart (ds ++ rest) = ds ++ rest := by
  obtain ⟨d, ds, rfl⟩ := List.exists_cons_of_ne_nil hne
  have hblank := not_isBlank_of_isAsciiDigit (hds d (List.mem_cons_self ..))
  rw [trimStart, List.cons_append, List.dropWhile_cons, hblank]
  rfl

end JobLog.Text
