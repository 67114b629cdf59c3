import JobLog.Proofs.Decimal.Double
import JobLog.Step.Basic

/-!
# Rounding is exact on short integers

Ratios of the same number round to the same double, and an integer of at most 53 bits is a double
itself. So a whole number of seconds is not changed by going through microseconds.

* `Ratio.Same` compares ratios, and `round?_congr` says that rounding depends on the number alone:
  the exponent is the only one that gives the mantissa its length (`Fits.unique`).
* `exists_ofInt?_exact` is the double of an integer.
* `Step.secondsOfMicros?_seconds` is the result for seconds.
-/

namespace JobLog

namespace Decimal.Ratio

variable {r s : Ratio}

/-- The ratios are the same number. -/
def Same (r s : Ratio) : Prop := r.num * s.den = s.num * r.den

theorem den_scale_ne_zero (hden : r.den ≠ 0) (e : Int) : (r.scale e).den ≠ 0 := by
  simp only [scale, Nat.shiftLeft_eq]
  exact Nat.mul_ne_zero hden (Nat.ne_of_gt (Nat.two_pow_pos _))

theorem Same.scale (h : Same r s) (e : Int) : Same (r.scale e) (s.scale e) := by
  simp only [Same, Ratio.scale, Nat.shiftLeft_eq]
  calc r.num * 2 ^ e.toNat * (s.den * 2 ^ (-e).toNat)
      = r.num * s.den * (2 ^ e.toNat * 2 ^ (-e).toNat) := by ac_rfl
    _ = s.num * r.den * (2 ^ e.toNat * 2 ^ (-e).toNat) := by rw [h]
    _ = s.num * 2 ^ e.toNat * (r.den * 2 ^ (-e).toNat) := by ac_rfl

/-- The rests are the same part of the denominators. -/
theorem Same.rest_eq (h : Same r s) : r.num % r.den * s.den = s.num % s.den * r.den :=
  calc r.num % r.den * s.den
      = r.num * s.den % (r.den * s.den) := (Nat.mul_mod_mul_right ..).symm
    _ = s.num * r.den % (s.den * r.den) := by rw [h, Nat.mul_comm r.den]
    _ = s.num % s.den * r.den := Nat.mul_mod_mul_right ..

section

variable (h : Same r s) (hr : r.den ≠ 0) (hs : s.den ≠ 0)

include h hr hs

theorem Same.num_eq_zero_iff : r.num = 0 ↔ s.num = 0 := by
  constructor
  · intro hzero
    have hmul : s.num * r.den = 0 := by rw [← h, hzero, Nat.zero_mul]
    exact (Nat.mul_eq_zero.1 hmul).resolve_right hr
  · intro hzero
    have hmul : r.num * s.den = 0 := by rw [h, hzero, Nat.zero_mul]
    exact (Nat.mul_eq_zero.1 hmul).resolve_right hs

theorem Same.floor_eq : r.floor = s.floor :=
  calc r.num / r.den
      = r.num * s.den / (r.den * s.den) :=
        (Nat.mul_div_mul_right _ _ (Nat.pos_of_ne_zero hs)).symm
    _ = s.num * r.den / (s.den * r.den) := by rw [h, Nat.mul_comm r.den]
    _ = s.num / s.den := Nat.mul_div_mul_right _ _ (Nat.pos_of_ne_zero hr)

theorem Same.nearest_eq : r.nearest = s.nearest := by
  have hfloor := h.floor_eq hr hs
  have hrest := h.rest_eq
  have hrpos := Nat.pos_of_ne_zero hr
  have hspos := Nat.pos_of_ne_zero hs
  have hdown : 2 * (r.num % r.den) < r.den ↔ 2 * (s.num % s.den) < s.den := by
    rw [← Nat.mul_lt_mul_right hspos, ← Nat.mul_lt_mul_right (b := 2 * (s.num % s.den)) hrpos,
      Nat.mul_assoc, Nat.mul_assoc, hrest, Nat.mul_comm r.den]
  have hup : r.den < 2 * (r.num % r.den) ↔ s.den < 2 * (s.num % s.den) := by
    rw [← Nat.mul_lt_mul_right hspos, ← Nat.mul_lt_mul_right (b := s.den) hrpos,
      Nat.mul_assoc, Nat.mul_assoc, hrest, Nat.mul_comm r.den]
  simp only [nearest, hdown, hup, hfloor]

end

end Decimal.Ratio

namespace Double

open Decimal (Ratio)

variable {r s : Ratio} {e e' : Int}

/-! ### The exponent -/

/-- The exponent gives the mantissa of a ratio its length. -/
structure Fits (r : Ratio) (e : Int) : Prop where
  least_le : -1074 ≤ e
  short : (r.scale (-e)).floor < 2 * leadingBit
  long : leadingBit ≤ (r.scale (-e)).floor ∨ e = -1074

theorem fits_exponentOf (hnum : r.num ≠ 0) (hden : r.den ≠ 0) : Fits r (exponentOf r) :=
  ⟨le_exponentOf r, floor_scale_exponentOf_lt hden, le_floor_scale_exponentOf hnum hden⟩

/-- A smaller exponent gives at least one bit more. -/
theorem two_mul_le_floor_scale (hden : r.den ≠ 0) (hlt : e < e') {k : Nat}
    (h : k ≤ (r.scale (-e')).floor) : 2 * k ≤ (r.scale (-e)).floor := by
  rw [Ratio.le_floor_scale_iff hden] at h ⊢
  have hexponents : e.toNat + (-e').toNat + 1 ≤ e'.toNat + (-e).toNat := by omega
  refine Nat.le_of_mul_le_mul_right ?_ (Nat.two_pow_pos (-e').toNat)
  calc 2 * k * (r.den * 2 ^ e.toNat) * 2 ^ (-e').toNat
      = k * r.den * 2 ^ (e.toNat + (-e').toNat + 1) := by
        rw [Nat.pow_succ, Nat.pow_add]
        ac_rfl
    _ ≤ k * r.den * 2 ^ (e'.toNat + (-e).toNat) :=
        Nat.mul_le_mul_left _ (Nat.pow_le_pow_right (by decide) hexponents)
    _ = k * (r.den * 2 ^ e'.toNat) * 2 ^ (-e).toNat := by
        rw [Nat.pow_add]
        ac_rfl
    _ ≤ r.num * 2 ^ (-e').toNat * 2 ^ (-e).toNat := Nat.mul_le_mul_right _ h
    _ = r.num * 2 ^ (-e).toNat * 2 ^ (-e').toNat := by ac_rfl

theorem Fits.not_lt (h : Fits r e) (h' : Fits r e') (hden : r.den ≠ 0) : ¬ e < e' := by
  intro hlt
  have hlong : leadingBit ≤ (r.scale (-e')).floor := by
    have hleast := h.least_le
    exact h'.long.resolve_right (by omega)
  exact absurd (two_mul_le_floor_scale hden hlt hlong) (Nat.not_le_of_lt h.short)

theorem Fits.unique (h : Fits r e) (h' : Fits r e') (hden : r.den ≠ 0) : e = e' :=
  Int.le_antisymm (Int.not_lt.1 (h'.not_lt h hden)) (Int.not_lt.1 (h.not_lt h' hden))

section

variable (h : r.Same s) (hr : r.den ≠ 0) (hs : s.den ≠ 0)

include h hr hs

theorem exponentOf_congr (hnum : r.num ≠ 0) : exponentOf r = exponentOf s := by
  have hnum' : s.num ≠ 0 := mt (h.num_eq_zero_iff hr hs).2 hnum
  obtain ⟨hleast, hshort, hlong⟩ := fits_exponentOf hnum' hs
  have hfloor := (h.scale (-exponentOf s)).floor_eq (Ratio.den_scale_ne_zero hr _)
    (Ratio.den_scale_ne_zero hs _)
  exact (fits_exponentOf hnum hr).unique ⟨hleast, hfloor ▸ hshort, hfloor ▸ hlong⟩ hr

/-- **Rounding depends on the number alone.** -/
theorem round?_congr (negative : Bool) : round? negative r = round? negative s := by
  unfold round?
  by_cases hnum : r.num = 0
  · rw [if_pos hnum, if_pos ((h.num_eq_zero_iff hr hs).1 hnum)]
  · have hnearest := (h.scale (-exponentOf s)).nearest_eq (Ratio.den_scale_ne_zero hr _)
      (Ratio.den_scale_ne_zero hs _)
    simp only [if_neg hnum, if_neg (mt (h.num_eq_zero_iff hr hs).2 hnum),
      exponentOf_congr h hr hs hnum, hnearest]

end

/-! ### Integers -/

/-- The double is the integer. -/
def IsInt (x : Double) (n : Int) : Prop :=
  x.negative = decide (n < 0) ∧ x.magnitude.Same ⟨n.natAbs, 1⟩

/-- An integer of at most 53 bits is a double. -/
theorem exists_ofInt?_exact {n : Int} (h : n.natAbs < 2 ^ 53) :
    ∃ x, ofInt? n = some x ∧ x.IsInt n := by
  by_cases hzero : n = 0
  · subst hzero
    exact ⟨zero false, rfl, rfl, by simp [Ratio.Same, magnitude, zero, Ratio.scale]⟩
  · have hnum : n.natAbs ≠ 0 := Int.natAbs_ne_zero.2 hzero
    obtain ⟨hleast, hshort, hlong⟩ := fits_exponentOf (r := ⟨n.natAbs, 1⟩) hnum Nat.one_ne_zero
    have hle := exponentOf_le ⟨n.natAbs, 1⟩
    generalize hexponent : exponentOf ⟨n.natAbs, 1⟩ = e at hleast hshort hlong hle
    have he : e ≤ 0 := by
      have hlog := log2_le_of_lt h
      have hone : (1 : Nat).log2 = 0 := by decide
      simp only [firstExponent, hone] at hle
      omega
    -- the exponent is not positive, so nothing is cut off
    have hscale : (⟨n.natAbs, 1⟩ : Ratio).scale (-e) = ⟨n.natAbs * 2 ^ (-e).toNat, 1⟩ := by
      simp only [Ratio.scale, Int.neg_neg, Int.toNat_of_nonpos he, Nat.shiftLeft_eq, Nat.pow_zero,
        Nat.mul_one]
    have hfloor : (⟨n.natAbs * 2 ^ (-e).toNat, 1⟩ : Ratio).floor = n.natAbs * 2 ^ (-e).toNat :=
      Nat.div_one _
    have hnearest : (⟨n.natAbs * 2 ^ (-e).toNat, 1⟩ : Ratio).nearest =
        n.natAbs * 2 ^ (-e).toNat := by
      simp only [Ratio.nearest, hfloor, Nat.mod_one]
      rfl
    rw [hscale, hfloor] at hshort hlong
    have hvalid : Valid (n.natAbs * 2 ^ (-e).toNat) e := ⟨hshort, by omega, hlong⟩
    refine ⟨⟨decide (n < 0), n.natAbs * 2 ^ (-e).toNat, e, hvalid⟩, ?_, rfl, ?_⟩
    · unfold ofInt? round?
      simp only [hnum, if_false, hexponent, hscale, hnearest, Nat.ne_of_lt hshort]
      exact dif_pos hvalid
    · simp only [Ratio.Same, magnitude, Ratio.scale, Int.toNat_of_nonpos he, Nat.shiftLeft_eq,
        Nat.pow_zero, Nat.mul_one, Nat.one_mul]

end Double

/-- **Whole seconds are exact**: their microseconds, divided by a million, are the seconds again. -/
theorem Step.secondsOfMicros?_seconds {k : Int} (h : k.natAbs < 2 ^ 33) :
    secondsOfMicros? (k * 1000000) = Double.ofInt? k := by
  have hmicros : (k * 1000000).natAbs < 2 ^ 53 := by omega
  obtain ⟨x, hx, hsign, hvalue⟩ := Double.exists_ofInt?_exact hmicros
  obtain ⟨y, hy, hsign', hvalue'⟩ := Double.exists_ofInt?_exact (n := 1000000) (by decide)
  have hden : ∀ z : Double, z.magnitude.den ≠ 0 := fun z =>
    Decimal.Ratio.den_scale_ne_zero Nat.one_ne_zero _
  have hnum : y.magnitude.num ≠ 0 := by
    have hpos := Nat.pos_of_ne_zero (hden y)
    have hmillion : y.magnitude.num * 1 = 1000000 * y.magnitude.den := hvalue'
    omega
  have hmantissa : y.mantissa ≠ 0 := by
    intro hzero
    exact hnum (by simp [Double.magnitude, Decimal.Ratio.scale, hzero])
  have hsame : (⟨x.magnitude.num * y.magnitude.den, x.magnitude.den * y.magnitude.num⟩ :
      Decimal.Ratio).Same ⟨k.natAbs, 1⟩ := by
    have hmul : (k * 1000000).natAbs = k.natAbs * 1000000 := Int.natAbs_mul ..
    have hmillion : (1000000 : Int).natAbs = 1000000 := rfl
    simp only [Decimal.Ratio.Same, Nat.mul_one, hmul, hmillion] at hvalue hvalue' ⊢
    rw [hvalue, hvalue']
    ac_rfl
  have hnegative : (x.negative != y.negative) = decide (k < 0) := by
    have hlt : k * 1000000 < 0 ↔ k < 0 := by omega
    rw [hsign, hsign', decide_eq_decide.2 hlt]
    exact Bool.xor_false _
  simp only [secondsOfMicros?, hx, hy, Option.bind_eq_bind, Option.bind_some, Double.div?,
    if_neg hmantissa, hnegative]
  exact Double.round?_congr hsame (Nat.mul_ne_zero (hden x) hnum) Nat.one_ne_zero _

end JobLog
