import Lexicon.Json.Bracket
import Lexicon.Json.Quoted
import Mathlib.Data.List.Forall2

/-!
# The grammar of JSON text

What the readers accept is stated against this grammar, which knows nothing of reading: it says of a
stretch of text, from its first character to its last, what it stands for.

* `IsLiteral v text` — `v` is a string literal that decodes to `text`.
* `IsRawLiteral v` — `v` has the form of a string literal, whatever its surrogates.
* `IsNumeral v` — `v` is a numeral.
* `IsArray v elements`, `IsObject v members` — `v` is an array or an object with these parts.
* `IsValue v` — `v` is any value, nested to any depth.

### Two kinds of string literal

A literal that is read has to decode: a code in the range of the surrogates stands only in a pair.
A literal that nobody asks for is held to its form alone, so `\ud800` may stand in it by itself.
Members of objects come in the same two kinds, by their keys; `IsObject` is about decoded keys and
`IsValue` about keys held to their form.

### Blanks

`Spaced` puts the blanks around an item, and `MemberWith` those around the colon.  So the text of an
element or of a member's value, as `IsArray` and `IsObject` give it, starts and ends with the value.
-/

namespace Lexicon.Json

/-- A run of blanks. -/
def Blanks (w : List Char) : Prop := ∀ c ∈ w, isBlank c = true

/-! ## String literals -/

/-- A character that stands for itself in a string literal. -/
def Plain (c : Char) : Prop := c ≠ '"' ∧ c ≠ '\\' ∧ 0x20 ≤ c.toNat

/-- The letters that may follow a backslash, with the characters they stand for. -/
inductive Letter : Char → Char → Prop
  | quote : Letter '"' '"'
  | backslash : Letter '\\' '\\'
  | slash : Letter '/' '/'
  | backspace : Letter 'b' '\x08'
  | formFeed : Letter 'f' '\x0c'
  | newline : Letter 'n' '\n'
  | carriageReturn : Letter 'r' '\r'
  | tab : Letter 't' '\t'

/-- Four hexadecimal digits and their value. -/
def IsHex (h : List Char) (n : Nat) : Prop :=
  ∃ a b c d, h = [a, b, c, d] ∧ hexDigits? a b c d = some n

/-- What follows a backslash, with the character that the escape stands for. -/
inductive Escape : List Char → Char → Prop
  | letter {l c : Char} (meaning : Letter l c) : Escape [l] c
  | code {h : List Char} {n : Nat} (hex : IsHex h n) (scalar : n < 0xD800 ∨ 0xDFFF < n) :
      Escape ('u' :: h) (Char.ofNat n)
  | pair {h h' : List Char} {high low : Nat}
      (hex : IsHex h high) (isHigh : 0xD800 ≤ high ∧ high ≤ 0xDBFF)
      (hex' : IsHex h' low) (isLow : 0xDC00 ≤ low ∧ low ≤ 0xDFFF) :
      Escape ('u' :: (h ++ '\\' :: 'u' :: h'))
        (Char.ofNat (0x10000 + ((high - 0xD800) * 0x400 + (low - 0xDC00))))

/-- What stands between the quotes of a literal, with the text it decodes to. -/
inductive Spells : List Char → List Char → Prop
  | nil : Spells [] []
  | plain {c : Char} {s t : List Char} (self : Plain c) (rest : Spells s t) :
      Spells (c :: s) (c :: t)
  | escape {e s t : List Char} {c : Char} (escaped : Escape e c) (rest : Spells s t) :
      Spells ('\\' :: (e ++ s)) (c :: t)

/-- A string literal that decodes to a text. -/
def IsLiteral (v : List Char) (text : String) : Prop :=
  ∃ body, v = '"' :: (body ++ ['"']) ∧ Spells body text.toList

/-- What follows a backslash, whatever it stands for. -/
inductive RawEscape : List Char → Prop
  | letter {l c : Char} (meaning : Letter l c) : RawEscape [l]
  | code {h : List Char} {n : Nat} (hex : IsHex h n) : RawEscape ('u' :: h)

/-- What has the form of the inside of a literal. -/
inductive Raw : List Char → Prop
  | nil : Raw []
  | plain {c : Char} {s : List Char} (self : Plain c) (rest : Raw s) : Raw (c :: s)
  | escape {e s : List Char} (escaped : RawEscape e) (rest : Raw s) : Raw ('\\' :: (e ++ s))

/-- What has the form of a string literal. -/
def IsRawLiteral (v : List Char) : Prop :=
  ∃ body, v = '"' :: (body ++ ['"']) ∧ Raw body

/-! ## Numerals -/

/-- One digit or more. -/
def Digits (s : List Char) : Prop := s ≠ [] ∧ ∀ c ∈ s, c.isDigit = true

/-- The digits before the point: a lone zero, or digits that start with another. -/
inductive IsWhole : List Char → Prop
  | zero : IsWhole ['0']
  | digits {c : Char} {s : List Char} (nonzero : c ≠ '0') (digits : Digits (c :: s)) :
      IsWhole (c :: s)

/-- The point with the digits after it, or neither. -/
inductive IsFraction : List Char → Prop
  | none : IsFraction []
  | some {d : List Char} (digits : Digits d) : IsFraction ('.' :: d)

/-- The sign of an exponent, which may be left out. -/
def IsSign (s : List Char) : Prop := s = [] ∨ s = ['+'] ∨ s = ['-']

/-- The exponent, or nothing. -/
inductive IsExponent : List Char → Prop
  | none : IsExponent []
  | some {e : Char} {sign d : List Char} (mark : e = 'e' ∨ e = 'E') (signed : IsSign sign)
      (digits : Digits d) : IsExponent (e :: (sign ++ d))

/-- A numeral without its minus sign. -/
inductive IsMagnitude : List Char → Prop
  | mk {whole fraction exponent : List Char} (isWhole : IsWhole whole)
      (isFraction : IsFraction fraction) (isExponent : IsExponent exponent) :
      IsMagnitude (whole ++ (fraction ++ exponent))

/-- A numeral. -/
inductive IsNumeral : List Char → Prop
  | positive {s : List Char} (magnitude : IsMagnitude s) : IsNumeral s
  | negative {s : List Char} (magnitude : IsMagnitude s) : IsNumeral ('-' :: s)

/-! ## Arrays, objects and values -/

/-- The opening bracket. -/
def Bracket.opening : Bracket → Char
  | .square => '['
  | .curly => '{'

variable {α : Type}

/-- An item with blanks around it. -/
def Spaced (Item : List Char → α → Prop) (t : List Char) (a : α) : Prop :=
  ∃ w v w', t = w ++ (v ++ w') ∧ Blanks w ∧ Item v a ∧ Blanks w'

/-- Brackets around items with commas between them, or around blanks. -/
inductive Enclosed (b : Bracket) (Item : List Char → α → Prop) : List Char → List α → Prop
  | hollow {w : List Char} (blanks : Blanks w) :
      Enclosed b Item (b.opening :: (w ++ [b.close])) []
  | filled {texts : List (List Char)} {as : List α} (nonempty : texts ≠ [])
      (items : List.Forall₂ (Spaced Item) texts as) :
      Enclosed b Item (b.opening :: (List.intercalate [','] texts ++ [b.close])) as

/-- A member of an object: a key, a colon and the value `v`. -/
def MemberWith (Key : List Char → Prop) (m v : List Char) : Prop :=
  ∃ k w w', m = k ++ (w ++ ':' :: (w' ++ v)) ∧ Key k ∧ Blanks w ∧ Blanks w'

/-- An array with the texts of its elements. -/
def IsArray (v : List Char) (elements : List (List Char)) : Prop :=
  Enclosed .square Eq v elements

/-- A member with the text its key decodes to and the text of its value. -/
def IsMember (m : List Char) (entry : String × List Char) : Prop :=
  MemberWith (fun k => IsLiteral k entry.1) m entry.2

/-- An object with its members in the order in which they are written. -/
def IsObject (v : List Char) (members : List (String × List Char)) : Prop :=
  Enclosed .curly IsMember v members

/-- An item of brackets with the text of its value; a key is held to its form. -/
def Bracket.Item : Bracket → List Char → List Char → Prop
  | .square => Eq
  | .curly => MemberWith IsRawLiteral

/-- A value without parts. -/
inductive IsScalar : List Char → Prop
  | word {w : String} (known : w ∈ ["null", "true", "false"]) : IsScalar w.toList
  | numeral {n : List Char} (numeral : IsNumeral n) : IsScalar n
  | text {v : List Char} (literal : IsRawLiteral v) : IsScalar v

/-- A value, nested to any depth. -/
inductive IsValue : List Char → Prop
  | scalar {v : List Char} (scalar : IsScalar v) : IsValue v
  | enclosed {b : Bracket} {v : List Char} {values : List (List Char)}
      (items : Enclosed b b.Item v values) (inner : ∀ e ∈ values, IsValue e) : IsValue v

end Lexicon.Json
