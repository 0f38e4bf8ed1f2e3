import Lexicon.Json.Reader
import Lexicon.Number.Scaled

/-!
# Numerals

The parts of a numeral as it is written, and the kind of value it stands for. Readers and those who
skip a value take the same numerals; they differ in the cause they give when the text ends within
one.

## Main definitions

* `Numeral` — the parts: sign, whole digits, fraction, exponent.
* `takeNumeral` — a numeral off the front of a text.
* `Numeral.significand`, `Numeral.power` — its digits and its exponent, as far as they fit words.
* `Numeral.found?` — an integer where it fits sixty-four bits, a double otherwise.
-/

namespace Lexicon.Json

open Number

/-- A numeral, part by part. -/
structure Numeral where
  /-- Whether a minus sign stands in front. -/
  negative : Bool
  /-- The digits before the point. -/
  whole : List Char
  /-- The digits after the point; none without a point. -/
  fraction : List Char
  /-- The sign and the digits of the exponent, if there is one. -/
  exponent : Option (Bool × List Char)

/-- The digits at the front of a text. -/
def takeDigits (s : List Char) : List Char :=
  s.takeWhile Char.isDigit

/-- What follows the digits at the front of a text. -/
def dropDigits (s : List Char) : List Char :=
  s.dropWhile Char.isDigit

/-- One digit or more off the front. -/
def someDigits (cut : Cause) : List Char → Except Failure (List Char × List Char)
  | [] => atEnd cut
  | c :: s =>
    if c.isDigit then .ok (takeDigits (c :: s), dropDigits (c :: s)) else into (c :: s) .badNumber

/-- The digits before the point: a lone zero, or digits that start with another. -/
def wholeDigits (cut : Cause) (s : List Char) : Except Failure (List Char × List Char) :=
  match s with
  | '0' :: c :: r => if c.isDigit then into (c :: r) .badNumber else .ok (['0'], c :: r)
  | s => someDigits cut s

/-- The digits after the point, if there is one. -/
def fractionDigits (cut : Cause) : List Char → Except Failure (List Char × List Char)
  | '.' :: s => someDigits cut s
  | s => .ok ([], s)

/-- What follows the sign of an exponent; it may be left out. -/
def dropSign : List Char → List Char
  | '-' :: s => s
  | '+' :: s => s
  | s => s

/-- The exponent, if there is one: whether it is negative, and its digits. -/
def exponentPart (cut : Cause) :
    List Char → Except Failure (Option (Bool × List Char) × List Char)
  | [] => .ok (none, [])
  | c :: s =>
    if c = 'e' ∨ c = 'E' then
      match someDigits cut (dropSign s) with
      | .ok (digits, r) => .ok (some (s.head? = some '-', digits), r)
      | .error e => .error e
    else .ok (none, c :: s)

/-- Takes a numeral off the front, after its minus sign if it has one. `cut` is the cause if the
text ends where a digit has to stand. -/
def takeNumeral (cut : Cause) (negative : Bool) (s : List Char) :
    Except Failure (Numeral × List Char) :=
  match wholeDigits cut s with
  | .error e => .error e
  | .ok (whole, s) =>
    match fractionDigits cut s with
    | .error e => .error e
    | .ok (fraction, s) =>
      match exponentPart cut s with
      | .error e => .error e
      | .ok (exponent, s) => .ok (⟨negative, whole, fraction, exponent⟩, s)

/-! ## What a numeral stands for -/

/-- Appends digits to a number as long as it stays below a limit: the number, and the digits that
are left over. -/
def appendDigits (limit n : Nat) : List Char → Nat × List Char
  | [] => (n, [])
  | d :: digits =>
    let longer := n * 10 + (d.toNat - '0'.toNat)
    if longer < limit then appendDigits limit longer digits else (n, d :: digits)

namespace Numeral

/-- Digits are counted in words of sixty-four bits. -/
def wordLimit : Nat := Nat.pow 2 64

/-- Exponents are counted in words of thirty-two bits, one of them for the sign. -/
def exponentLimit : Nat := Nat.pow 2 31

/-- The digits of a numeral as far as they fit a word. A whole digit that is left over counts as a
power of ten; one of the fraction counts for nothing. -/
def significand (n : Numeral) : Decimal :=
  let (whole, powers) := appendDigits wordLimit 0 n.whole
  let (digits, ignored) := appendDigits wordLimit whole n.fraction
  ⟨digits, powers.length - (n.fraction.length - ignored.length)⟩

/-- The digits of the exponent as a number, as far as they fit, and those that are left over. -/
def magnitude (n : Numeral) : Nat × List Char :=
  match n.exponent with
  | none => (0, [])
  | some (_, digits) => appendDigits exponentLimit 0 digits

/-- The power of ten written as an exponent. Where digits are left over, those that fit are enough
to put it beyond the range of doubles. -/
def power (n : Numeral) : Int :=
  match n.exponent with
  | some (true, _) => -(n.magnitude.1 : Int)
  | _ => n.magnitude.1

/-- How many digits follow the one at which the exponent no longer fits. A numeral out of range is
refused at that digit, before these are read. -/
def unread (n : Numeral) : Nat := n.magnitude.2.length - 1

/-- The integer that a numeral without fraction and exponent stands for, where it fits: an unsigned
or a negative number of sixty-four bits. A negative zero is no integer. -/
def integer? (n : Numeral) : Option Nat :=
  if n.fraction = [] ∧ n.exponent = none then
    match appendDigits wordLimit 0 n.whole with
    | (magnitude, []) =>
      if n.negative → 0 < magnitude ∧ magnitude ≤ Nat.pow 2 63 then some magnitude else none
    | (_, _ :: _) => none
  else none

/-- The kind of value a numeral stands for; none if it comes out above all doubles. -/
def found? (n : Numeral) : Option Found :=
  match n.integer? with
  | some magnitude => some (.integer n.negative magnitude)
  | none =>
    let d := n.significand
    (Decimal.toDouble? ⟨d.digits, d.exponent + n.power⟩).map (.double n.negative)

end Numeral

/-! ## Something is taken -/

theorem length_dropDigits_le (s : List Char) : (dropDigits s).length ≤ s.length :=
  (List.dropWhile_sublist _).length_le

theorem length_lt_of_someDigits {cut : Cause} {s d r : List Char}
    (h : someDigits cut s = .ok (d, r)) : r.length < s.length := by
  cases s with
  | nil => cases h
  | cons c s =>
    rw [someDigits] at h
    split at h
    · next digit =>
      cases h
      rw [dropDigits, List.dropWhile_cons_of_pos digit]
      exact Nat.lt_succ_of_le (length_dropDigits_le s)
    · cases h

theorem length_lt_of_wholeDigits {cut : Cause} {s d r : List Char}
    (h : wholeDigits cut s = .ok (d, r)) : r.length < s.length := by
  unfold wholeDigits at h
  split at h
  · split at h
    · cases h
    · cases h
      exact Nat.lt_succ_self _
  · exact length_lt_of_someDigits h

theorem length_le_of_fractionDigits {cut : Cause} {s d r : List Char}
    (h : fractionDigits cut s = .ok (d, r)) : r.length ≤ s.length := by
  unfold fractionDigits at h
  split at h
  · have := length_lt_of_someDigits h
    simp only [List.length_cons]
    omega
  · cases h
    exact Nat.le_refl _

theorem length_dropSign_le (s : List Char) : (dropSign s).length ≤ s.length := by
  unfold dropSign
  split <;> simp

theorem length_le_of_exponentPart {cut : Cause} {s r : List Char} {e : Option (Bool × List Char)}
    (h : exponentPart cut s = .ok (e, r)) : r.length ≤ s.length := by
  cases s with
  | nil => cases h; exact Nat.le_refl _
  | cons c s =>
    rw [exponentPart] at h
    split at h
    · split at h
      · next digits =>
        cases h
        have := length_lt_of_someDigits digits
        have := length_dropSign_le s
        simp only [List.length_cons]
        omega
      · cases h
    · cases h
      exact Nat.le_refl _

theorem length_lt_of_takeNumeral {cut : Cause} {negative : Bool} {s r : List Char} {n : Numeral}
    (h : takeNumeral cut negative s = .ok (n, r)) : r.length < s.length := by
  unfold takeNumeral at h
  split at h
  · cases h
  · next whole =>
    have := length_lt_of_wholeDigits whole
    split at h
    · cases h
    · next fraction =>
      have := length_le_of_fractionDigits fraction
      split at h
      · cases h
      · next exponent =>
        have := length_le_of_exponentPart exponent
        cases h
        omega

end Lexicon.Json
