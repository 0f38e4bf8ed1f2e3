import Lexicon.Number.Decimal
import Lexicon.Number.Double

/-!
# Shortest decimals

The fewest decimal digits that still name a double: among the decimals that round to the double,
one with the fewest digits, and of those the nearest.

## Main definitions

* `Double.names` — the decimals that round to a double.
* `Double.shortest` — the shortest of them.
* `Double.text` — a double as its shortest decimal.
-/

namespace Lexicon.Number

namespace Double

/-- The lower end of the ratios that round to a double: half way to the double below, which is half
as far away where the mantissa is the least of its binary order. -/
def lowerEnd (x : Double) : Ratio :=
  if x.mantissa = Nat.pow 2 (digits - 1) ∧ leastExponent < x.exponent then
    .scaled (4 * x.mantissa - 1) .two (x.exponent - 2)
  else .scaled (2 * x.mantissa - 1) .two (x.exponent - 1)

/-- The upper end of the ratios that round to a double: half way to the double above. -/
def upperEnd (x : Double) : Ratio :=
  .scaled (2 * x.mantissa + 1) .two (x.exponent - 1)

/-- Whether a ratio rounds to a double; an end of its interval does if the mantissa is even. -/
def names (x : Double) (a : Ratio) : Bool :=
  if x.mantissa % 2 = 0 then x.lowerEnd.le a && a.le x.upperEnd
  else x.lowerEnd.lt a && a.lt x.upperEnd

/-- Of the two multiples of `10 ^ exponent` around a double those that name it; if both do, the
nearer, and the even one of two equally near. -/
def onGrid? (x : Double) (exponent : Int) : Option Decimal :=
  let quotient := x.toRatio.div (.scaled 1 .ten exponent)
  let below : Decimal := ⟨quotient.floor, exponent⟩
  let above : Decimal := ⟨quotient.floor + 1, exponent⟩
  match x.names below.toRatio, x.names above.toRatio with
  | true, true => some (if quotient.round = below.digits then below else above)
  | true, false => some below
  | false, true => some above
  | false, false => none

/-- The shortest decimal of a positive double. Seventeen digits always name it. -/
def shortest (x : Double) : Decimal :=
  let power := x.toRatio.decimalExponent
  let found := (List.range 17).findSome? fun (n : Nat) => x.onGrid? (power - n)
  (found.getD ⟨(x.toRatio.div (.scaled 1 .ten (power - 16))).round, power - 16⟩).trimZeros 17

/-- The text of a double: zero as it is, any other by its shortest decimal. -/
def text (layout : Decimal.Layout) (x : Double) : String :=
  if x.mantissa = 0 then Decimal.text layout ⟨0, 0⟩ else x.shortest.text layout

end Double

end Lexicon.Number
