import Lexicon.Number.Ratio

/-!
# Doubles

The non-negative finite doubles as exact numbers `mantissa · 2 ^ exponent`, and their arithmetic:
each operation is the exact one, rounded once to the nearest double.

## Main definitions

* `Double` — a mantissa and a power of two.
* `Double.nearest?` — the double nearest to a ratio.
* `Double.mul?`, `Double.div?` — the rounded product and quotient.
-/

namespace Lexicon.Number

/-- The number `mantissa · 2 ^ exponent`. -/
structure Double where
  mantissa : Nat
  exponent : Int
  deriving DecidableEq

namespace Double

/-- The exponent of the least positive double. -/
def leastExponent : Int := -1074

/-- The exponent of the greatest doubles. -/
def greatestExponent : Int := 971

/-- A mantissa has 53 binary digits, fewer only at the least exponent. -/
def digits : Nat := 53

/-- Zero, at the least exponent. -/
def zero : Double := ⟨0, leastExponent⟩

/-- The value of a double as a ratio. -/
def toRatio (x : Double) : Ratio := .scaled x.mantissa .two x.exponent

/-- The double nearest to a ratio, an even mantissa deciding a tie; none if the ratio is so great
that it rounds above all doubles. -/
def nearest? (a : Ratio) : Option Double :=
  if a.num = 0 then some zero
  else
    let exponent := max leastExponent (a.binaryExponent + 1 - digits)
    let mantissa := (a.div (.scaled 1 .two exponent)).round
    let x : Double :=
      if mantissa = Nat.pow 2 digits then ⟨Nat.pow 2 (digits - 1), exponent + 1⟩
      else ⟨mantissa, exponent⟩
    if x.exponent ≤ greatestExponent then some x else none

/-- The double nearest to a natural number; none above all doubles. -/
def ofNat? (n : Nat) : Option Double := nearest? ⟨n, 1, Nat.one_pos⟩

/-- The product of two doubles, rounded to a double; none above all doubles. -/
def mul? (x y : Double) : Option Double := nearest? (x.toRatio.mul y.toRatio)

/-- The quotient of two doubles, rounded to a double; none above all doubles. -/
def div? (x y : Double) : Option Double := nearest? (x.toRatio.div y.toRatio)

end Double

end Lexicon.Number
