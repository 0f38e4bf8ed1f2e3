import Lexicon.Number.Ratio

/-!
# Decimals

Numbers as their decimal digits with a power of ten, and how they are laid out as text.

## Main definitions

* `Decimal` — digits and a power of ten.
* `Decimal.Layout` — where positional notation begins and ends.
* `Decimal.text` — the text of a decimal.
-/

namespace Lexicon.Number

/-- The number `digits · 10 ^ exponent`. -/
structure Decimal where
  digits : Nat
  exponent : Int
  deriving DecidableEq

namespace Decimal

/-- The value of a decimal as a ratio. -/
def toRatio (d : Decimal) : Ratio := .scaled d.digits .ten d.exponent

/-- The same number without zeros at the end of its digits; at most `fuel` of them go. -/
def trimZeros (d : Decimal) : Nat → Decimal
  | 0 => d
  | fuel + 1 =>
    if d.digits ≠ 0 ∧ d.digits % 10 = 0 then trimZeros ⟨d.digits / 10, d.exponent + 1⟩ fuel else d

/-- Where positional notation begins and ends, by the power of ten of the first digit. -/
structure Layout where
  /-- The least power written positionally. -/
  least : Int
  /-- The least power above those written positionally. -/
  ceiling : Int

/-- The text of a decimal. In positional notation there is a digit on both sides of the point; in
scientific notation the point stands only between digits, and the exponent has a sign. -/
def text (layout : Layout) (d : Decimal) : String :=
  let digits := Nat.toDigits 10 d.digits
  let power : Int := digits.length - 1 + d.exponent
  if d.digits = 0 then "0.0"
  else if layout.least ≤ power ∧ power < layout.ceiling then
    if power < 0 then
      String.ofList ('0' :: '.' :: (List.replicate ((-power).toNat - 1) '0' ++ digits))
    else
      let whole := power.toNat + 1
      let fraction := digits.drop whole
      String.ofList (digits.take whole ++ List.replicate (whole - digits.length) '0' ++
        '.' :: (if fraction = [] then ['0'] else fraction))
  else
    let fraction := digits.drop 1
    String.ofList (digits.take 1 ++ (if fraction = [] then [] else '.' :: fraction) ++
      'e' :: (if power < 0 then '-' else '+') :: Nat.toDigits 10 power.natAbs)

end Decimal

end Lexicon.Number
