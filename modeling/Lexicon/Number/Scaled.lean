import Lexicon.Number.Decimal
import Lexicon.Number.Double

/-!
# Decimals read as doubles

A decimal becomes a double in the arithmetic of doubles: its digits are rounded, and the result is
multiplied with a power of ten or divided by one. Every step rounds, so the outcome can be a
neighbour of the double that is nearest to the decimal.

## Main definitions

* `Double.scale?` — a double times a power of ten of either sign.
* `Decimal.toDouble?` — the double that a decimal is read as.

## Design notes

The powers of ten that divide or multiply are doubles themselves, of which `10 ^ 308` is the
greatest. A smaller exponent is taken off in steps of this size, until the rest is within reach or
nothing is left to divide; a greater one is out of range without a product. So an exponent of any
size costs at most a few operations.
-/

namespace Lexicon.Number

namespace Double

/-- The exponent of the greatest power of ten that a double can be near to. -/
def greatestPower : Int := 308

/-- The double nearest to a power of ten; none above the greatest. -/
def powerOfTen? (k : Int) : Option Double :=
  if k ≤ greatestPower then nearest? (.scaled 1 .ten k) else none

/-- Divides a double by the greatest power of ten, so many times or until nothing is left. -/
def lower? (x : Double) : Nat → Option Double
  | 0 => some x
  | n + 1 =>
    if x.mantissa = 0 then some x
    else ((powerOfTen? greatestPower).bind x.div?).bind (·.lower? n)

/-- A double times `10 ^ e`, by rounded operations; none above all doubles. A negative exponent is
split into the greatest powers and one more, which is between one and the greatest. -/
def scale? (x : Double) (e : Int) : Option Double :=
  if x.mantissa = 0 then some x
  else if 0 ≤ e then (powerOfTen? e).bind x.mul?
  else
    (x.lower? ((-e - 1) / greatestPower).toNat).bind fun y =>
      (powerOfTen? ((-e - 1) % greatestPower + 1)).bind y.div?

end Double

/-- The double that a decimal is read as; none if it comes out above all doubles. -/
def Decimal.toDouble? (d : Decimal) : Option Double :=
  (Double.ofNat? d.digits).bind (·.scale? d.exponent)

end Lexicon.Number
