import JobLog.Decimal.Double
import JobLog.Text.Padded

/-!
# Shortest decimals

A finite double stands for an interval of reals that round to it. Of the decimals in this interval
the shortest one is written, of two that are equally short the nearer one, and in a tie the one
with the even last digit.

* `Double.shortest` gives the digits and the exponent of ten of its shortest decimal; the search
  goes through the grids of one to seventeen digits in exact arithmetic.
* `Double.write` is the decimal with a point or, for large and small values, with an exponent.
-/

namespace JobLog

open Decimal (Ratio)

namespace Decimal

/-- The number of decimal digits. -/
def digitCount (n : Nat) : Nat := (Text.decimal n).length

/-- The exponent of the leading decimal digit of a positive ratio. -/
def leadingExponent (r : Ratio) : Int :=
  if r.den ≤ r.num then (digitCount r.floor : Int) - 1
  else
    let d := digitCount (r.den / r.num)
    if r.num * Nat.pow 10 (d - 1) = r.den then 1 - (d : Int) else -(d : Int)

/-- Drops trailing zeros, counting them in the exponent; `fuel` bounds their number. -/
def dropZeros : Nat → Nat → Int → Nat × Int
  | 0, digits, k => (digits, k)
  | fuel + 1, digits, k =>
    if digits % 10 = 0 ∧ digits ≠ 0 then dropZeros fuel (digits / 10) (k + 1) else (digits, k)

/-- The digits with a point behind the first `places` of them. -/
def withPoint (places : Nat) (digits : List Char) : List Char :=
  digits.take places ++ '.' :: digits.drop places

/-- The decimal `digits * 10 ^ k`: positional while the point stands within sixteen digits behind
the start or five zeros before it, otherwise with an exponent and its sign. -/
def render (digits : Nat) (k : Int) : List Char :=
  let ds := Text.decimal digits
  let point := (ds.length : Int) + k
  if 0 ≤ k ∧ point ≤ 16 then ds ++ List.replicate k.toNat '0' ++ ['.', '0']
  else if 0 < point ∧ point ≤ 16 then withPoint point.toNat ds
  else if -5 < point ∧ point ≤ 0 then '0' :: '.' :: List.replicate (-point).toNat '0' ++ ds
  else
    let e := point - 1
    (if ds.length = 1 then ds else withPoint 1 ds) ++
      'e' :: (if e < 0 then '-' else '+') :: Text.decimal e.natAbs

end Decimal

namespace Double

/-- The next smaller double is nearer than the next larger one. -/
def narrowBelow (x : Double) : Bool := x.mantissa = leadingBit && x.exponent ≠ -1074

/-- The decimal `digits * 10 ^ k` rounds to the double. -/
def covers (x : Double) (digits : Nat) (k : Int) : Bool :=
  -- quarters of the mantissa's unit make the ends of the interval whole numbers
  let unit := (⟨1, 1⟩ : Ratio).scale (x.exponent - 2) |>.shift (-k)
  let point := digits * unit.den
  let low := (4 * x.mantissa - if x.narrowBelow then 1 else 2) * unit.num
  let high := (4 * x.mantissa + 2) * unit.num
  if x.mantissa % 2 = 0 then low ≤ point && point ≤ high else low < point && point < high

/-- The point of the grid `10 ^ k` that the double is written with, if one rounds to it. -/
def onGrid? (x : Double) (k : Int) : Option Nat :=
  let r := x.magnitude.shift (-k)
  let near := r.nearest
  let far := if near = r.floor then near + 1 else r.floor
  if x.covers near k then some near
  else if x.covers far k then some far
  else none

/-- The digits and the exponent of the shortest decimal that rounds to the double. -/
def shortest (x : Double) : Nat × Int :=
  let top := Decimal.leadingExponent x.magnitude
  let hit := (List.range 17).findSome? fun (n : Nat) =>
    (x.onGrid? (top - n)).map fun digits => (digits, top - n)
  let (digits, k) := hit.getD (0, 0)
  Decimal.dropZeros 17 digits k

/-- The shortest decimal, always with a point or an exponent. -/
def write (x : Double) : List Char :=
  (if x.negative then ['-'] else []) ++
    if x.mantissa = 0 then ['0', '.', '0']
    else Decimal.render x.shortest.1 x.shortest.2

end Double
end JobLog
