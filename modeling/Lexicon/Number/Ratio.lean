/-!
# Non-negative ratios

Exact arithmetic on quotients of natural numbers, as far as decimals and binary fractions need it:
products, quotients, comparison and rounding. Denominators are positive.
-/

namespace Lexicon.Number

/-- The quotient `num / den`. -/
structure Ratio where
  num : Nat
  den : Nat
  den_pos : 0 < den

/-- The bases of the powers that numbers are scaled by. -/
inductive Radix where
  | two | ten

/-- The number that a base is. -/
def Radix.toNat : Radix → Nat
  | .two => 2
  | .ten => 10

theorem Radix.toNat_pos : (base : Radix) → 0 < base.toNat
  | .two => Nat.two_pos
  | .ten => Nat.succ_pos 9

namespace Ratio

/-- The ratio `n · base ^ e`, for an exponent of either sign. -/
def scaled (n : Nat) (base : Radix) (e : Int) : Ratio :=
  if 0 ≤ e then ⟨n * Nat.pow base.toNat e.toNat, 1, Nat.one_pos⟩
  else ⟨n, Nat.pow base.toNat (-e).toNat, Nat.pow_pos base.toNat_pos⟩

/-- The product of two ratios. -/
def mul (a b : Ratio) : Ratio := ⟨a.num * b.num, a.den * b.den, Nat.mul_pos a.den_pos b.den_pos⟩

/-- The quotient of two ratios; a quotient by zero is read as one by the unit. -/
def div (a b : Ratio) : Ratio :=
  if h : 0 < b.num then ⟨a.num * b.den, a.den * b.num, Nat.mul_pos a.den_pos h⟩ else a

/-- The greatest natural number not above a ratio. -/
def floor (a : Ratio) : Nat := a.num / a.den

/-- The order of ratios, by cross multiplication. -/
def le (a b : Ratio) : Bool := a.num * b.den ≤ b.num * a.den

/-- The strict order of ratios. -/
def lt (a b : Ratio) : Bool := a.num * b.den < b.num * a.den

/-- The natural number nearest to a ratio; of two equally near, the even one. -/
def round (a : Ratio) : Nat :=
  let below := a.num / a.den
  let twice := 2 * (a.num % a.den)
  if twice < a.den then below
  else if a.den < twice then below + 1
  else below + below % 2

/-- The exponent of the greatest power of ten not above a positive ratio. -/
def decimalExponent (a : Ratio) : Int :=
  let guess : Int := (Nat.toDigits 10 a.num).length - (Nat.toDigits 10 a.den).length
  if le (scaled 1 .ten guess) a then guess else guess - 1

/-- The exponent of the greatest power of two not above a positive ratio. -/
def binaryExponent (a : Ratio) : Int :=
  let guess : Int := a.num.log2 - a.den.log2
  if le (scaled 1 .two guess) a then guess else guess - 1

end Ratio

end Lexicon.Number
