import JobLog.Proofs.Decimal.Exact
import Mathlib.Algebra.Order.Field.Basic
import Mathlib.Algebra.Order.Field.Rat
import Mathlib.Algebra.Order.Ring.Abs
import Mathlib.Tactic.Linarith
import Mathlib.Tactic.NormNum
import Mathlib.Tactic.Ring

/-!
# Rounding gives the nearest double

Doubles are rational numbers, and what rounding does is told by these alone: no double is nearer to
the number, and where another one is as near the mantissa is even.

* `Double.IsNearest` says so, and `Double.isNearest_of_round?` that rounding does it: the exponent
  is the one that makes the mantissa long, so a double with a smaller one is too small to be near,
  and all others are multiples of one power of two.
* `Double.isNearest_of_ofInt?` and `Double.isNearest_of_div?` are integers and quotients.
* `Double.IsMillionth` are the seconds of microseconds, and `Step.isMillionth_of_secondsOfMicros?`
  is the result for them.
-/

namespace JobLog

namespace Decimal.Ratio

variable {r : Ratio}

/-- The number that a ratio is. -/
def toRat (r : Ratio) : ℚ := r.num / r.den

theorem toRat_scale (r : Ratio) (e : Int) : (r.scale e).toRat = r.toRat * 2 ^ e := by
  have hpow : ((2 : ℚ) ^ e.toNat) / 2 ^ (-e).toNat = 2 ^ e := by
    rcases e.eq_nat_or_neg with ⟨n, rfl | rfl⟩
    · simp
    · simp
  rw [← hpow, toRat, toRat, scale, Nat.shiftLeft_eq, Nat.shiftLeft_eq]
  push_cast
  ring

theorem toRat_eq_floor_add (hden : r.den ≠ 0) :
    r.toRat = r.floor + (r.num % r.den : ℕ) / r.den := by
  have hpos : (r.den : ℚ) ≠ 0 := Nat.cast_ne_zero.2 hden
  have hdiv : (r.num : ℚ) = r.den * (r.num / r.den : ℕ) + (r.num % r.den : ℕ) := by
    exact_mod_cast (Nat.div_add_mod r.num r.den).symm
  rw [toRat, floor, eq_comm, eq_div_iff hpos, add_mul, div_mul_cancel₀ _ hpos, hdiv]
  ring

theorem floor_le_toRat (hden : r.den ≠ 0) : (r.floor : ℚ) ≤ r.toRat := by
  rw [toRat_eq_floor_add hden]
  exact le_add_of_nonneg_right (div_nonneg (Nat.cast_nonneg _) (Nat.cast_nonneg _))

/-- The nearest whole number is at most one half away, and it is even where it is as far. -/
theorem nearest_spec (hden : r.den ≠ 0) :
    |r.toRat - r.nearest| ≤ 1 / 2 ∧ (|r.toRat - r.nearest| = 1 / 2 → r.nearest % 2 = 0) := by
  have hpos : (0 : ℚ) < r.den := Nat.cast_pos.2 (Nat.pos_of_ne_zero hden)
  have hmod : ((r.num % r.den : ℕ) : ℚ) < r.den :=
    Nat.cast_lt.2 (Nat.mod_lt _ (Nat.pos_of_ne_zero hden))
  have hrest : (0 : ℚ) ≤ (r.num % r.den : ℕ) / r.den :=
    div_nonneg (Nat.cast_nonneg _) (Nat.cast_nonneg _)
  have hrest' : ((r.num % r.den : ℕ) : ℚ) / r.den < 1 := (div_lt_iff₀ hpos).2 (by linarith)
  rw [toRat_eq_floor_add hden]
  dsimp only [nearest]
  split
  case isTrue h =>
    have hdown : ((r.num % r.den : ℕ) : ℚ) / r.den < 1 / 2 := by
      have hcast : ((2 * (r.num % r.den) : ℕ) : ℚ) < r.den := Nat.cast_lt.2 h
      push_cast at hcast
      exact (div_lt_iff₀ hpos).2 (by linarith)
    rw [add_sub_cancel_left, abs_of_nonneg hrest]
    exact ⟨hdown.le, fun heq => absurd heq hdown.ne⟩
  case isFalse h =>
    split
    case isTrue h' =>
      have hup : 1 / 2 < ((r.num % r.den : ℕ) : ℚ) / r.den := by
        have hcast : (r.den : ℚ) < (2 * (r.num % r.den) : ℕ) := Nat.cast_lt.2 h'
        push_cast at hcast
        exact (lt_div_iff₀ hpos).2 (by linarith)
      rw [Nat.cast_succ, add_sub_add_left_eq_sub, abs_of_nonpos (by linarith)]
      exact ⟨by linarith, fun heq => absurd heq (by linarith)⟩
    case isFalse h' =>
      have hhalf : ((r.num % r.den : ℕ) : ℚ) / r.den = 1 / 2 := by
        have hcast : ((2 * (r.num % r.den) : ℕ) : ℚ) = r.den := by
          exact_mod_cast (by omega : 2 * (r.num % r.den) = r.den)
        push_cast at hcast
        rw [div_eq_iff hpos.ne']
        linarith
      rw [hhalf]
      split
      case isTrue heven =>
        rw [add_sub_cancel_left, abs_of_nonneg (by norm_num)]
        exact ⟨le_rfl, fun _ => heven⟩
      case isFalse hodd =>
        rw [Nat.cast_succ, add_sub_add_left_eq_sub]
        norm_num
        omega

end Decimal.Ratio

namespace Double

open Decimal (Ratio)

variable {x : Double} {q : ℚ} {r : Ratio} {negative : Bool}

/-- The number that a double is. -/
def toRat (x : Double) : ℚ :=
  (if x.negative then -(x.mantissa : ℚ) else x.mantissa) * 2 ^ x.exponent

/-- No double is nearer to the number than this one, and if another one is as near the mantissa of
this one is even. -/
structure IsNearest (x : Double) (q : ℚ) : Prop where
  le : ∀ y : Double, |q - x.toRat| ≤ |q - y.toRat|
  even : ∀ y : Double, |q - y.toRat| = |q - x.toRat| → y.toRat = x.toRat ∨ x.mantissa % 2 = 0

/-! ### The other sign -/

theorem toRat_neg (x : Double) : x.neg.toRat = -x.toRat := by
  cases hx : x.negative <;> simp [toRat, neg, hx]

theorem neg_involutive : Function.Involutive neg := fun x => by
  simp [neg]

theorem abs_neg_sub_toRat_neg (q : ℚ) (x : Double) : |-q - x.toRat| = |q - x.neg.toRat| := by
  rw [toRat_neg, ← abs_neg, neg_sub, sub_neg_eq_add, sub_neg_eq_add, add_comm]

theorem IsNearest.neg (h : x.IsNearest q) : x.neg.IsNearest (-q) where
  le y := by
    have hle := h.le y.neg
    rw [abs_neg_sub_toRat_neg, abs_neg_sub_toRat_neg]
    rwa [toRat_neg, toRat_neg, neg_neg]
  even y hy := by
    rw [abs_neg_sub_toRat_neg, abs_neg_sub_toRat_neg, toRat_neg x.neg, toRat_neg x, neg_neg] at hy
    have heven := h.even y.neg hy
    rwa [toRat_neg, neg_eq_iff_eq_neg, ← toRat_neg] at heven

/-! ### Near numbers -/

/-- A whole number that is at most one half away is a nearest one, and another one is as near only
where it is one half away. -/
theorem abs_sub_le_of_half {m : ℚ} {a : ℕ} (h : |m - a| ≤ 1 / 2) (k : ℤ) :
    |m - a| ≤ |m - k| ∧ (|m - k| = |m - a| → k = a ∨ |m - a| = 1 / 2) := by
  by_cases hk : k = a
  · subst hk
    exact ⟨by simp, fun _ => .inl rfl⟩
  · have hone : (1 : ℚ) ≤ |(k : ℚ) - a| := by
      have habs : 1 ≤ |k - (a : ℤ)| := Int.one_le_abs (sub_ne_zero.2 hk)
      exact_mod_cast habs
    have htriangle : |(k : ℚ) - a| ≤ |m - k| + |m - a| := by
      rw [abs_sub_comm m k]
      simpa using abs_add_le ((k : ℚ) - m) (m - a)
    refine ⟨by linarith, fun heq => .inr (le_antisymm h (by linarith))⟩

/-- A double is a multiple of a power of two, or it is small against it. -/
theorem exists_multiple_or_lt (y : Double) (e : Int) :
    (∃ k : ℤ, y.toRat = k * 2 ^ e) ∨ y.exponent < e ∧ y.toRat < leadingBit * 2 ^ e := by
  by_cases he : e ≤ y.exponent
  · left
    obtain ⟨n, hn⟩ := Int.eq_ofNat_of_zero_le (Int.sub_nonneg_of_le he)
    have hexponent : y.exponent = n + e := by omega
    refine ⟨(if y.negative then -(y.mantissa : ℤ) else y.mantissa) * 2 ^ n, ?_⟩
    rw [toRat, hexponent, zpow_add₀ two_ne_zero, zpow_natCast]
    split <;> push_cast <;> ring
  · right
    have hlt : y.exponent < e := Int.not_le.1 he
    refine ⟨hlt, ?_⟩
    have hle : y.toRat ≤ y.mantissa * 2 ^ y.exponent := by
      refine mul_le_mul_of_nonneg_right ?_ (zpow_pos two_pos _).le
      split
      · exact (neg_nonpos.2 (Nat.cast_nonneg _)).trans (Nat.cast_nonneg _)
      · exact le_rfl
    have hmantissa : (y.mantissa : ℚ) < 2 * leadingBit := by exact_mod_cast y.valid.1
    have hpow : (2 : ℚ) ^ y.exponent ≤ 2 ^ (e - 1) :=
      zpow_le_zpow_right₀ one_le_two (by omega)
    calc y.toRat ≤ y.mantissa * 2 ^ y.exponent := hle
      _ ≤ y.mantissa * 2 ^ (e - 1) := mul_le_mul_of_nonneg_left hpow (Nat.cast_nonneg _)
      _ < 2 * leadingBit * 2 ^ (e - 1) := mul_lt_mul_of_pos_right hmantissa (zpow_pos two_pos _)
      _ = leadingBit * 2 ^ e := by
        rw [zpow_sub_one₀ two_ne_zero]
        ring

/-! ### Rounding -/

/-- What rounding makes of a positive ratio: the nearest mantissa for the exponent that is chosen,
or half of it where it is too long. -/
theorem round?_spec (hnum : r.num ≠ 0) (h : round? negative r = some x) :
    x.negative = negative ∧
      (x.mantissa : ℚ) * 2 ^ x.exponent =
        (r.scale (-exponentOf r)).nearest * 2 ^ exponentOf r ∧
      ((r.scale (-exponentOf r)).nearest % 2 = 0 → x.mantissa % 2 = 0) := by
  unfold round? at h
  rw [if_neg hnum] at h
  dsimp only at h
  split at h
  case isTrue hcarry =>
    unfold ofParts? at h
    split at h
    case isFalse => cases h
    case isTrue =>
      cases h
      refine ⟨rfl, ?_, fun _ => (by decide : leadingBit % 2 = 0)⟩
      simp only
      rw [hcarry, zpow_add_one₀ two_ne_zero]
      push_cast
      ring
  case isFalse =>
    unfold ofParts? at h
    split at h
    case isFalse => cases h
    case isTrue =>
      cases h
      exact ⟨rfl, rfl, id⟩

/-- A double of this value is nearest to the ratio. The exponent is the one that gives the mantissa
its length, so a double with a smaller exponent is less than the ratio and farther away. -/
theorem isNearest_of_toRat_eq (hden : r.den ≠ 0) (hnum : r.num ≠ 0)
    (hvalue : x.toRat = (r.scale (-exponentOf r)).nearest * 2 ^ exponentOf r)
    (heven : (r.scale (-exponentOf r)).nearest % 2 = 0 → x.mantissa % 2 = 0) :
    x.IsNearest r.toRat := by
  have hlong := le_floor_scale_exponentOf hnum hden
  generalize exponentOf r = e at hvalue heven hlong
  have hpow : (0 : ℚ) < 2 ^ e := zpow_pos two_pos _
  have hscaled := Ratio.den_scale_ne_zero hden (-e)
  obtain ⟨hhalf, htie⟩ := Ratio.nearest_spec hscaled
  have hratio : r.toRat = (r.scale (-e)).toRat * 2 ^ e := by
    rw [Ratio.toRat_scale, mul_assoc, ← zpow_add₀ two_ne_zero, neg_add_cancel, zpow_zero, mul_one]
  have hdistance : ∀ t : ℚ, |r.toRat - t * 2 ^ e| = |(r.scale (-e)).toRat - t| * 2 ^ e := by
    intro t
    rw [hratio, ← sub_mul, abs_mul, abs_of_pos hpow]
  have hmultiple : ∀ k : ℤ, |r.toRat - x.toRat| ≤ |r.toRat - k * 2 ^ e| := by
    intro k
    rw [hvalue, hdistance, hdistance]
    exact mul_le_mul_of_nonneg_right (abs_sub_le_of_half hhalf k).1 hpow.le
  have hsmall : ∀ y : Double, y.exponent < e → y.toRat < leadingBit * 2 ^ e →
      |r.toRat - x.toRat| < |r.toRat - y.toRat| := by
    intro y hexponent hy
    have hleast := y.valid.2.1.1
    have hfloor : (leadingBit : ℚ) ≤ (r.scale (-e)).toRat :=
      (Nat.cast_le.2 (hlong.resolve_right (by omega))).trans (Ratio.floor_le_toRat hscaled)
    have hle : leadingBit * 2 ^ e ≤ r.toRat := by
      rw [hratio]
      exact mul_le_mul_of_nonneg_right hfloor hpow.le
    calc |r.toRat - x.toRat|
        ≤ |r.toRat - leadingBit * 2 ^ e| := hmultiple leadingBit
      _ = r.toRat - leadingBit * 2 ^ e := abs_of_nonneg (sub_nonneg.2 hle)
      _ < r.toRat - y.toRat := sub_lt_sub_left hy _
      _ ≤ |r.toRat - y.toRat| := le_abs_self _
  constructor
  · intro y
    rcases exists_multiple_or_lt y e with ⟨k, hk⟩ | ⟨hexponent, hy⟩
    · rw [hk]
      exact hmultiple k
    · exact (hsmall y hexponent hy).le
  · intro y heq
    rcases exists_multiple_or_lt y e with ⟨k, hk⟩ | ⟨hexponent, hy⟩
    · rw [hvalue, hk, hdistance, hdistance] at heq
      rcases (abs_sub_le_of_half hhalf k).2 (mul_right_cancel₀ hpow.ne' heq) with rfl | hfar
      · exact .inl (hk.trans hvalue.symm)
      · exact .inr (heven (htie hfar))
    · exact absurd heq (hsmall y hexponent hy).ne'

/-- **Rounding gives the nearest double** with the sign that is asked for. -/
theorem isNearest_of_round? (hden : r.den ≠ 0) (h : round? negative r = some x) :
    x.negative = negative ∧ x.IsNearest (if negative then -r.toRat else r.toRat) := by
  by_cases hnum : r.num = 0
  · rw [round?, if_pos hnum] at h
    obtain rfl := Option.some.inj h
    have hzero : r.toRat = 0 := by simp [Ratio.toRat, hnum]
    refine ⟨rfl, fun y => ?_, fun _ _ => .inr rfl⟩
    simp [hzero, toRat, zero]
  · obtain ⟨hsign, hvalue, heven⟩ := round?_spec hnum h
    refine ⟨hsign, ?_⟩
    cases negative with
    | false =>
      refine isNearest_of_toRat_eq hden hnum ?_ heven
      rw [toRat, hsign, if_neg (by decide), hvalue]
    | true =>
      have hneg : x.neg.IsNearest r.toRat := by
        refine isNearest_of_toRat_eq hden hnum ?_ heven
        rw [toRat_neg, toRat, hsign, if_pos rfl, neg_mul, neg_neg, hvalue]
      rw [if_pos rfl, ← neg_involutive x]
      exact hneg.neg

/-! ### Integers and quotients -/

/-- The double of an integer is nearest to it. -/
theorem isNearest_of_ofInt? {n : Int} (h : ofInt? n = some x) :
    x.negative = decide (n < 0) ∧ x.IsNearest n := by
  obtain ⟨hsign, hnearest⟩ := isNearest_of_round? Nat.one_ne_zero h
  refine ⟨hsign, ?_⟩
  have habs : (⟨n.natAbs, 1⟩ : Ratio).toRat = |(n : ℚ)| := by
    simp [Ratio.toRat, Nat.cast_natAbs]
  simp only [habs, decide_eq_true_eq] at hnearest
  split at hnearest
  case isTrue hn =>
    have hcast : (n : ℚ) < 0 := Int.cast_lt_zero.2 hn
    rwa [abs_of_neg hcast, neg_neg] at hnearest
  case isFalse hn =>
    have hcast : (0 : ℚ) ≤ n := Int.cast_nonneg (Int.not_lt.1 hn)
    rwa [abs_of_nonneg hcast] at hnearest

theorem toRat_eq_magnitude (x : Double) :
    x.toRat = if x.negative then -x.magnitude.toRat else x.magnitude.toRat := by
  have hmagnitude : x.magnitude.toRat = x.mantissa * 2 ^ x.exponent := by
    rw [magnitude, Ratio.toRat_scale]
    simp [Ratio.toRat]
  rw [toRat, hmagnitude]
  split
  · exact neg_mul ..
  · rfl

/-- The quotient of two doubles is nearest to the quotient of the numbers. -/
theorem isNearest_of_div? {y z : Double} (h : x.div? y = some z) :
    z.negative = (x.negative != y.negative) ∧ z.IsNearest (x.toRat / y.toRat) := by
  unfold div? at h
  split at h
  case isTrue => cases h
  case isFalse hy =>
    have hden : x.magnitude.den * y.magnitude.num ≠ 0 := by
      refine Nat.mul_ne_zero (Ratio.den_scale_ne_zero Nat.one_ne_zero _) ?_
      rw [magnitude, Ratio.scale, Nat.shiftLeft_eq]
      exact Nat.mul_ne_zero hy (Nat.two_pow_pos _).ne'
    obtain ⟨hsign, hnearest⟩ := isNearest_of_round? hden h
    refine ⟨hsign, ?_⟩
    have hquotient : (⟨x.magnitude.num * y.magnitude.den, x.magnitude.den * y.magnitude.num⟩ :
        Ratio).toRat = x.magnitude.toRat / y.magnitude.toRat := by
      simp only [Ratio.toRat, Nat.cast_mul, div_div_div_eq]
    rw [hquotient] at hnearest
    rw [toRat_eq_magnitude x, toRat_eq_magnitude y]
    cases hx : x.negative <;> cases hy' : y.negative <;>
      simpa [hx, hy', neg_div, div_neg] using hnearest

theorem toRat_of_isInt {n : Int} (h : x.IsInt n) : x.toRat = n := by
  obtain ⟨hsign, hvalue⟩ := h
  have hden : (x.magnitude.den : ℚ) ≠ 0 :=
    Nat.cast_ne_zero.2 (Ratio.den_scale_ne_zero Nat.one_ne_zero _)
  have hmagnitude : x.magnitude.toRat = |(n : ℚ)| := by
    have hcast : ((x.magnitude.num * 1 : ℕ) : ℚ) = (n.natAbs * x.magnitude.den : ℕ) :=
      congrArg Nat.cast hvalue
    rw [Ratio.toRat, div_eq_iff hden]
    simpa [Nat.cast_natAbs] using hcast
  rw [toRat_eq_magnitude, hmagnitude, hsign]
  by_cases hn : n < 0
  · have hcast : (n : ℚ) < 0 := Int.cast_lt_zero.2 hn
    simp [hn, abs_of_neg hcast]
  · have hcast : (0 : ℚ) ≤ n := Int.cast_nonneg (Int.not_lt.1 hn)
    simp [hn, abs_of_nonneg hcast]

/-! ### Microseconds -/

/-- The double tells microseconds in seconds: their number is rounded to a double, and then its
millionth. Fewer than `2 ^ 53` of them are a double already, so then the millionth alone is
rounded. -/
structure IsMillionth (x : Double) (us : Int) : Prop where
  sign : x.negative = decide (us < 0)
  rounded : ∃ u : Double, u.IsNearest us ∧ x.IsNearest (u.toRat / 1000000)
  short : us.natAbs < 2 ^ 53 → x.IsNearest (us / 1000000)

end Double

theorem Step.isMillionth_of_secondsOfMicros? {us : Int} {x : Double}
    (h : secondsOfMicros? us = some x) : x.IsMillionth us := by
  obtain ⟨million, hmillion, hint⟩ := Double.exists_ofInt?_exact (n := 1000000) (by decide)
  simp only [secondsOfMicros?, hmillion, Option.bind_eq_bind, Option.bind_some,
    Option.bind_eq_some_iff] at h
  obtain ⟨u, hu, hdiv⟩ := h
  obtain ⟨hsign, hnearest⟩ := Double.isNearest_of_ofInt? hu
  obtain ⟨hsign', hnearest'⟩ := Double.isNearest_of_div? hdiv
  rw [Double.toRat_of_isInt hint] at hnearest'
  refine ⟨?_, ⟨u, hnearest, by exact_mod_cast hnearest'⟩, fun hshort => ?_⟩
  · rw [hsign', hsign, hint.1]
    exact Bool.xor_false _
  · obtain ⟨v, hv, hexact⟩ := Double.exists_ofInt?_exact hshort
    obtain rfl := Option.some.inj (hu.symm.trans hv)
    rw [Double.toRat_of_isInt hexact] at hnearest'
    exact_mod_cast hnearest'

end JobLog
