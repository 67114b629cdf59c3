import JobLog.Decimal.Double
import Mathlib.Algebra.Group.Nat.Defs

/-!
# Rounding stays finite

Rounding a ratio has a value as long as the ratio is not too large for a double.

* `Ratio.floor_scale_lt_iff` and `Ratio.le_floor_scale_iff` compare a scaled ratio with a number.
* `floor_scale_exponentOf_lt` and `le_floor_scale_exponentOf`: the exponent that is chosen gives the
  mantissa its 53 bits.
* `exists_round?_eq` is the result for ratios, `exists_ofInt?_eq` that for integers and
  `isSome_div?` that for quotients.
-/

namespace JobLog

namespace Decimal.Ratio

variable {r : Ratio} {e : Int} {k : Nat}

theorem floor_scale_lt_iff (hden : r.den ≠ 0) :
    (r.scale (-e)).floor < k ↔ r.num * 2 ^ (-e).toNat < k * (r.den * 2 ^ e.toNat) := by
  have hpos : 0 < r.den * 2 ^ e.toNat := Nat.mul_pos (Nat.pos_of_ne_zero hden) (Nat.two_pow_pos _)
  simp only [scale, floor, Int.neg_neg, Nat.shiftLeft_eq]
  exact Nat.div_lt_iff_lt_mul hpos

theorem le_floor_scale_iff (hden : r.den ≠ 0) :
    k ≤ (r.scale (-e)).floor ↔ k * (r.den * 2 ^ e.toNat) ≤ r.num * 2 ^ (-e).toNat := by
  rw [← Nat.not_lt, floor_scale_lt_iff hden, Nat.not_lt]

theorem floor_le_nearest (r : Ratio) : r.floor ≤ r.nearest ∧ r.nearest ≤ r.floor + 1 := by
  dsimp only [nearest]
  split
  · omega
  · split
    · omega
    · split <;> omega

end Decimal.Ratio

namespace Double

open Decimal (Ratio)

variable {r : Ratio}

theorem leadingBit_eq : leadingBit = 2 ^ 52 := by rw [leadingBit, Nat.one_shiftLeft]

/-- The exponent that is tried first. -/
def firstExponent (r : Ratio) : Int := (r.num.log2 : Int) - r.den.log2 - 52

theorem exponentOf_eq (r : Ratio) :
    exponentOf r =
      max (-1074) (if leadingBit ≤ (r.scale (-firstExponent r)).floor then firstExponent r
        else firstExponent r - 1) := rfl

/-- From the first exponent on the mantissa is not too long. -/
theorem floor_scale_lt_of_le (hden : r.den ≠ 0) {e : Int} (he : firstExponent r ≤ e) :
    (r.scale (-e)).floor < 2 * leadingBit := by
  have hexponents : r.num.log2 + 1 + (-e).toNat ≤ 53 + (r.den.log2 + e.toNat) := by
    unfold firstExponent at he
    omega
  have hbit : 2 * leadingBit = 2 ^ 53 := by rw [leadingBit_eq, ← Nat.pow_succ']
  rw [Ratio.floor_scale_lt_iff hden, hbit]
  calc r.num * 2 ^ (-e).toNat
      < 2 ^ (r.num.log2 + 1) * 2 ^ (-e).toNat :=
        Nat.mul_lt_mul_of_pos_right Nat.lt_log2_self (Nat.two_pow_pos _)
    _ = 2 ^ (r.num.log2 + 1 + (-e).toNat) := (Nat.pow_add ..).symm
    _ ≤ 2 ^ (53 + (r.den.log2 + e.toNat)) := Nat.pow_le_pow_right (by decide) hexponents
    _ = 2 ^ 53 * (2 ^ r.den.log2 * 2 ^ e.toNat) := by rw [Nat.pow_add, Nat.pow_add]
    _ ≤ 2 ^ 53 * (r.den * 2 ^ e.toNat) :=
        Nat.mul_le_mul_left _ (Nat.mul_le_mul_right _ (Nat.log2_self_le hden))

/-- Below the first exponent the mantissa is not too short. -/
theorem le_floor_scale_of_lt (hnum : r.num ≠ 0) (hden : r.den ≠ 0) {e : Int}
    (he : e < firstExponent r) : leadingBit ≤ (r.scale (-e)).floor := by
  have hexponents : 52 + (r.den.log2 + 1 + e.toNat) ≤ r.num.log2 + (-e).toNat := by
    unfold firstExponent at he
    omega
  rw [Ratio.le_floor_scale_iff hden, leadingBit_eq]
  calc 2 ^ 52 * (r.den * 2 ^ e.toNat)
      ≤ 2 ^ 52 * (2 ^ (r.den.log2 + 1) * 2 ^ e.toNat) :=
        Nat.mul_le_mul_left _ (Nat.mul_le_mul_right _ (Nat.le_of_lt Nat.lt_log2_self))
    _ = 2 ^ (52 + (r.den.log2 + 1 + e.toNat)) := by rw [Nat.pow_add 2 52, Nat.pow_add 2 (_ + 1)]
    _ ≤ 2 ^ (r.num.log2 + (-e).toNat) := Nat.pow_le_pow_right (by decide) hexponents
    _ = 2 ^ r.num.log2 * 2 ^ (-e).toNat := Nat.pow_add ..
    _ ≤ r.num * 2 ^ (-e).toNat := Nat.mul_le_mul_right _ (Nat.log2_self_le hnum)

/-- A mantissa that is too short gets at most one bit more with the next smaller exponent. -/
theorem floor_scale_pred_lt (hden : r.den ≠ 0) {e : Int}
    (h : (r.scale (-e)).floor < leadingBit) :
    (r.scale (-(e - 1))).floor < 2 * leadingBit := by
  rw [Ratio.floor_scale_lt_iff hden] at h ⊢
  by_cases hpos : 0 < e
  · have hsucc : e.toNat = (e - 1).toNat + 1 := by omega
    have hzero : (-e).toNat = 0 ∧ (-(e - 1)).toNat = 0 := by omega
    rw [hzero.1, hsucc, Nat.pow_succ] at h
    rw [hzero.2]
    calc r.num * 2 ^ 0 < leadingBit * (r.den * (2 ^ (e - 1).toNat * 2)) := h
      _ = 2 * leadingBit * (r.den * 2 ^ (e - 1).toNat) := by ac_rfl
  · have hsucc : (-(e - 1)).toNat = (-e).toNat + 1 := by omega
    have hzero : e.toNat = 0 ∧ (e - 1).toNat = 0 := by omega
    rw [hzero.1] at h
    rw [hzero.2, hsucc, Nat.pow_succ]
    calc r.num * (2 ^ (-e).toNat * 2) = 2 * (r.num * 2 ^ (-e).toNat) := by ac_rfl
      _ < 2 * (leadingBit * (r.den * 2 ^ 0)) := Nat.mul_lt_mul_of_pos_left h (by decide)
      _ = 2 * leadingBit * (r.den * 2 ^ 0) := by ac_rfl

/-! ### The exponent that is chosen -/

theorem floor_scale_exponentOf_lt (hden : r.den ≠ 0) :
    (r.scale (-exponentOf r)).floor < 2 * leadingBit := by
  by_cases hlong : leadingBit ≤ (r.scale (-firstExponent r)).floor
  · refine floor_scale_lt_of_le hden ?_
    rw [exponentOf_eq, if_pos hlong]
    exact Int.le_max_right ..
  · rw [exponentOf_eq, if_neg hlong]
    by_cases hsmall : -1074 ≤ firstExponent r - 1
    · rw [Int.max_eq_right hsmall]
      exact floor_scale_pred_lt hden (Nat.lt_of_not_le hlong)
    · rw [Int.max_eq_left (by omega)]
      exact floor_scale_lt_of_le hden (by omega)

theorem le_floor_scale_exponentOf (hnum : r.num ≠ 0) (hden : r.den ≠ 0) :
    leadingBit ≤ (r.scale (-exponentOf r)).floor ∨ exponentOf r = -1074 := by
  rw [exponentOf_eq]
  split
  case isTrue hlong =>
    by_cases hsmall : -1074 ≤ firstExponent r
    · rw [Int.max_eq_right hsmall]
      exact .inl hlong
    · exact .inr (by omega)
  case isFalse =>
    by_cases hsmall : -1074 ≤ firstExponent r - 1
    · rw [Int.max_eq_right hsmall]
      exact .inl (le_floor_scale_of_lt hnum hden (by omega))
    · exact .inr (by omega)

theorem exponentOf_le (r : Ratio) : exponentOf r ≤ max (-1074) (firstExponent r) := by
  rw [exponentOf_eq]
  split <;> omega

theorem le_exponentOf (r : Ratio) : -1074 ≤ exponentOf r := by
  rw [exponentOf_eq]
  exact Int.le_max_left ..

/-! ### Rounding -/

/-- **Rounding has a value** where the ratio is small enough for a double, and its exponent is at
most one more than the one that is tried first. -/
theorem exists_round?_eq (negative : Bool) (hden : r.den ≠ 0) (hnum : r.num.log2 ≤ 1022) :
    ∃ x, round? negative r = some x ∧ x.exponent ≤ max (-1074) (firstExponent r) + 1 := by
  have hfirst : firstExponent r ≤ 970 := by
    unfold firstExponent
    omega
  have hle := exponentOf_le r
  have hge := le_exponentOf r
  unfold round?
  split
  case isTrue => exact ⟨_, rfl, by simp only [zero]; omega⟩
  case isFalse hne =>
    have hshort := floor_scale_exponentOf_lt hden
    have hlong := le_floor_scale_exponentOf hne hden
    have hnearest := Ratio.floor_le_nearest (r.scale (-exponentOf r))
    dsimp only
    split
    -- rounding up may give a mantissa of one bit more, a power of two
    case isTrue =>
      have hvalid : Valid leadingBit (exponentOf r + 1) :=
        ⟨by decide, by omega, .inl (Nat.le_refl _)⟩
      exact ⟨_, dif_pos hvalid, by simp only; omega⟩
    case isFalse hcarry =>
      have hvalid : Valid (r.scale (-exponentOf r)).nearest (exponentOf r) :=
        ⟨by omega, by omega, by omega⟩
      exact ⟨_, dif_pos hvalid, by simp only; omega⟩

theorem log2_le_of_lt {n k : Nat} (h : n < 2 ^ (k + 1)) : n.log2 ≤ k := by
  by_cases hzero : n = 0
  · subst hzero
    exact Nat.zero_le k
  · exact Nat.le_of_lt_succ ((Nat.log2_lt hzero).2 h)

/-- An integer that is not too large has a nearest double. -/
theorem exists_ofInt?_eq {n : Int} (h : n.natAbs < 2 ^ 64) :
    ∃ x, ofInt? n = some x ∧ x.exponent ≤ 12 := by
  have hlog : n.natAbs.log2 ≤ 63 := log2_le_of_lt h
  obtain ⟨x, hx, hexponent⟩ :=
    exists_round?_eq (n < 0) (r := ⟨n.natAbs, 1⟩) Nat.one_ne_zero (Nat.le_trans hlog (by decide))
  refine ⟨x, hx, ?_⟩
  simp only [firstExponent] at hexponent
  omega

/-- A quotient is not too large if the exponents are not too far apart. -/
theorem isSome_div? {x y : Double} (hy : y.mantissa ≠ 0) (hexponent : x.exponent ≤ 12)
    (hexponent' : -33 ≤ y.exponent) : (x.div? y).isSome = true := by
  have hbit : 2 * leadingBit = 2 ^ 53 := by rw [leadingBit_eq, ← Nat.pow_succ']
  have hmantissa : x.mantissa < 2 ^ 53 := hbit ▸ x.valid.1
  have hnum : x.magnitude.num * y.magnitude.den < 2 ^ (97 + 1) := by
    simp only [magnitude, Ratio.scale, Nat.shiftLeft_eq, Nat.one_mul]
    calc x.mantissa * 2 ^ x.exponent.toNat * 2 ^ (-y.exponent).toNat
        < 2 ^ 53 * 2 ^ x.exponent.toNat * 2 ^ (-y.exponent).toNat :=
          Nat.mul_lt_mul_of_pos_right
            (Nat.mul_lt_mul_of_pos_right hmantissa (Nat.two_pow_pos _)) (Nat.two_pow_pos _)
      _ = 2 ^ (53 + x.exponent.toNat + (-y.exponent).toNat) := by rw [Nat.pow_add, Nat.pow_add]
      _ ≤ 2 ^ (97 + 1) := Nat.pow_le_pow_right (by decide) (by omega)
  have hden : x.magnitude.den * y.magnitude.num ≠ 0 := by
    simp only [magnitude, Ratio.scale, Nat.shiftLeft_eq, Nat.one_mul]
    exact Nat.mul_ne_zero (Nat.ne_of_gt (Nat.two_pow_pos _))
      (Nat.mul_ne_zero hy (Nat.ne_of_gt (Nat.two_pow_pos _)))
  obtain ⟨q, hq, -⟩ := exists_round?_eq (x.negative != y.negative)
    (r := ⟨x.magnitude.num * y.magnitude.den, x.magnitude.den * y.magnitude.num⟩) hden
    (Nat.le_trans (log2_le_of_lt hnum) (by decide))
  rw [div?, if_neg hy, hq]
  rfl

/-- The nearest double of a million is a million. -/
theorem exists_ofInt?_million :
    ∃ y, ofInt? 1000000 = some y ∧ y.mantissa = 1000000 * 2 ^ 33 ∧ y.exponent = -33 :=
  ⟨⟨false, 1000000 * 2 ^ 33, -33, by decide⟩, by decide +kernel, rfl, rfl⟩

end Double
end JobLog
