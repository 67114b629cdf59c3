import JobLog.Json.Basic
import JobLog.Text.Digit

/-!
# Numbers in JSON texts

A numeral without fraction and exponent that fits a word of 64 bits, signed or not, is an integer;
every other numeral is a double. The double is computed from as many leading digits as fit a word
and one power of ten, so it is not always the nearest one. A double that is too large makes the
numeral out of range.

* `Numeral` holds the parts of a numeral.
* `Numeral.ofChars?` reads one, `Numeral.value?` is its number.
-/

namespace JobLog.Json

/-- The parts of a numeral. -/
structure Numeral where
  negative : Bool
  whole : List Char
  /-- The digits behind the point; none where there is no point. -/
  fraction : List Char
  /-- The exponent is negative, and its digits. -/
  exponent? : Option (Bool × List Char)

namespace Numeral

/-- Reads the exponent of a numeral, to the end of the text. -/
def exponentOf? : List Char → Option (Option (Bool × List Char))
  | [] => some none
  | c :: s =>
    if c = 'e' ∨ c = 'E' then
      match s with
      | '+' :: ds => digits? false ds
      | '-' :: ds => digits? true ds
      | ds => digits? false ds
    else none
where
  /-- Digits up to the end of the text. -/
  digits? (negative : Bool) (ds : List Char) : Option (Option (Bool × List Char)) :=
    if ds ≠ [] ∧ ds.all Text.isAsciiDigit then some (some (negative, ds)) else none

/-- Reads the magnitude of a numeral: digits without a leading zero, a fraction and an exponent. -/
def magnitudeOf? (negative : Bool) (s : List Char) : Option Numeral :=
  let whole := s.takeWhile Text.isAsciiDigit
  if whole = [] ∨ (whole.head? = some '0' ∧ whole.length ≠ 1) then none
  else
    match s.dropWhile Text.isAsciiDigit with
    | '.' :: r =>
      let fraction := r.takeWhile Text.isAsciiDigit
      if fraction = [] then none
      else (exponentOf? (r.dropWhile Text.isAsciiDigit)).map fun e => ⟨negative, whole, fraction, e⟩
    | r => (exponentOf? r).map fun e => ⟨negative, whole, [], e⟩

/-- Reads a numeral. -/
def ofChars? : List Char → Option Numeral
  | '-' :: s => magnitudeOf? true s
  | s => magnitudeOf? false s

/-- The leading digits that fit a word, in front of the number `n`, and the digits that remain. -/
def fill (n : Nat) : List Char → Nat × List Char
  | [] => (n, [])
  | d :: ds =>
    let m := 10 * n + Text.digitValue d
    if m < Text.wordBound then fill m ds else (n, d :: ds)

/-- The leading digits of the numeral as a number, and the power of ten it is to be multiplied
with, the exponent left aside. -/
def significand (u : Numeral) : Nat × Int :=
  let (n, dropped) := fill 0 u.whole
  let (n, rest) := fill n u.fraction
  (n, (dropped.length : Int) - (u.fraction.length - rest.length : Nat))

/-- The greatest power of ten that is multiplied with at once. -/
def maxPower : Nat := 308

/-- A power of ten, rounded. -/
def power? (k : Nat) : Option Double := Double.ofInt? (Nat.pow 10 k)

/-- Divides by a power of ten, the greatest power of ten at a time. -/
def divide? (x : Double) (k : Nat) : Option Double :=
  if k ≤ maxPower then (power? k).bind x.div?
  else if x.mantissa = 0 then some x
  else ((power? maxPower).bind x.div?).bind fun y => divide? y (k - maxPower)
termination_by k
decreasing_by
  simp only [maxPower] at *
  omega

/-- The number times a power of ten, where that is in range. -/
def scale? (x : Double) (k : Int) : Option Double :=
  if k < 0 then divide? x k.natAbs
  else if k ≤ maxPower then (power? k.toNat).bind x.mul?
  else if x.mantissa = 0 then some x
  else none

/-- Exponents from here on are not looked at. -/
def maxExponent : Nat := 1 <<< 31

/-- The double of the numeral, without its sign. -/
def double? (u : Numeral) : Option Double :=
  let (n, k) := u.significand
  match u.exponent? with
  | none => (Double.ofInt? n).bind (scale? · k)
  | some (negative, ds) =>
    let e := Text.digitsValue ds
    if e < maxExponent then
      (Double.ofInt? n).bind (scale? · (k + if negative then -(e : Int) else e))
    else if negative ∨ n = 0 then some (.zero false)
    else none

/-- The numeral as an integer, if it is written as one and fits a word. -/
def integer? (u : Numeral) : Option Int :=
  let n := Text.digitsValue u.whole
  if u.fraction ≠ [] ∨ u.exponent?.isSome then none
  else if u.negative then (if n ≠ 0 ∧ 2 * n ≤ Text.wordBound then some (-(n : Int)) else none)
  else if n < Text.wordBound then some n
  else none

/-- The number of the numeral, if it is in range. -/
def value? (u : Numeral) : Option Number :=
  match u.integer? with
  | some n => some (.int n)
  | none => u.double?.map fun x => .float (if u.negative then x.neg else x)

end Numeral
end JobLog.Json
