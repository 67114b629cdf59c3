/-!
# Doubles

The finite binary floating point numbers of 64 bits, in exact arithmetic.

* `Double` is a sign with `mantissa * 2 ^ exponent` in normal form, so equal numbers are equal
  values; the two zeros differ in the sign.
* `Double.round?` rounds a ratio to the nearest double, a tie to the even mantissa. It has no value
  where the double would be infinite.
* `Double.mul?` and `Double.div?` round the exact result.
-/

namespace JobLog.Decimal

/-- A ratio of natural numbers; the denominator is positive. -/
structure Ratio where
  num : Nat
  den : Nat

namespace Ratio

/-- The ratio times a power of two. -/
def scale (r : Ratio) (e : Int) : Ratio := ⟨r.num <<< e.toNat, r.den <<< (-e).toNat⟩

/-- The ratio times a power of ten. -/
def shift (r : Ratio) (k : Int) : Ratio :=
  ⟨r.num * Nat.pow 10 k.toNat, r.den * Nat.pow 10 (-k).toNat⟩

/-- The largest whole number up to the ratio. -/
def floor (r : Ratio) : Nat := r.num / r.den

/-- The nearest whole number, in a tie the even one. -/
def nearest (r : Ratio) : Nat :=
  let rest := r.num % r.den
  if 2 * rest < r.den then r.floor
  else if r.den < 2 * rest then r.floor + 1
  else if r.floor % 2 = 0 then r.floor else r.floor + 1

end Ratio
end Decimal

/-- A mantissa has 53 bits, the leading one is this. -/
def Double.leadingBit : Nat := 1 <<< 52

/-- The mantissa and the exponent of a finite double in normal form: only the smallest exponent
leaves the leading bit out. -/
def Double.Valid (mantissa : Nat) (exponent : Int) : Prop :=
  mantissa < 2 * leadingBit ∧ (-1074 ≤ exponent ∧ exponent ≤ 971)
    ∧ (leadingBit ≤ mantissa ∨ exponent = -1074)

instance (mantissa : Nat) (exponent : Int) : Decidable (Double.Valid mantissa exponent) :=
  inferInstanceAs (Decidable (_ ∧ _))

/-- A finite double, `mantissa * 2 ^ exponent` with a sign. -/
structure Double where
  negative : Bool
  mantissa : Nat
  exponent : Int
  valid : Double.Valid mantissa exponent
  deriving DecidableEq

namespace Double

open Decimal (Ratio)

/-- The double of a mantissa and an exponent in normal form. -/
def ofParts? (negative : Bool) (mantissa : Nat) (exponent : Int) : Option Double :=
  if h : Valid mantissa exponent then some ⟨negative, mantissa, exponent, h⟩ else none

/-- Zero, with a sign. -/
def zero (negative : Bool) : Double := ⟨negative, 0, -1074, by decide⟩

/-- The magnitude of a double. -/
def magnitude (x : Double) : Ratio := (⟨x.mantissa, 1⟩ : Ratio).scale x.exponent

/-- The exponent that gives a positive ratio a mantissa of 53 bits, at least that of the smallest
doubles. -/
def exponentOf (r : Ratio) : Int :=
  let e := (r.num.log2 : Int) - r.den.log2 - 52
  max (-1074) (if leadingBit ≤ (r.scale (-e)).floor then e else e - 1)

/-- The double nearest to a ratio with a sign, unless it is infinite. -/
def round? (negative : Bool) (r : Ratio) : Option Double :=
  if r.num = 0 then some (zero negative)
  else
    let e := exponentOf r
    let m := (r.scale (-e)).nearest
    if m = 2 * leadingBit then ofParts? negative leadingBit (e + 1) else ofParts? negative m e

/-- The nearest double of an integer. -/
def ofInt? (n : Int) : Option Double := round? (n < 0) ⟨n.natAbs, 1⟩

/-- The number with the other sign. -/
def neg (x : Double) : Double := ⟨!x.negative, x.mantissa, x.exponent, x.valid⟩

/-- The rounded product. -/
def mul? (x y : Double) : Option Double :=
  round? (x.negative != y.negative)
    ⟨x.magnitude.num * y.magnitude.num, x.magnitude.den * y.magnitude.den⟩

/-- The rounded quotient, if the divisor is not zero. -/
def div? (x y : Double) : Option Double :=
  if y.mantissa = 0 then none
  else round? (x.negative != y.negative)
    ⟨x.magnitude.num * y.magnitude.den, x.magnitude.den * y.magnitude.num⟩

/-- The largest whole number up to the magnitude. -/
def floor (x : Double) : Nat := x.magnitude.floor

end Double
end JobLog
