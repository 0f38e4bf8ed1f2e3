import Lexicon.Text.Ranges

/-!
# Blank characters

The code points with the Unicode property White_Space, and the text without those at its two ends.
-/

namespace Lexicon.Text

/-- The ranges of White_Space, ascending. -/
def whiteSpace : Ranges :=
  [(0x9, 0xd), (0x20, 0x20), (0x85, 0x85), (0xa0, 0xa0), (0x1680, 0x1680), (0x2000, 0x200a),
   (0x2028, 0x2029), (0x202f, 0x202f), (0x205f, 0x205f), (0x3000, 0x3000)]

/-- A character with the property White_Space. -/
def isBlank (c : Char) : Bool :=
  whiteSpace.contains c.toNat

/-- The characters less the blanks at both ends. -/
def stripBlanks (s : List Char) : List Char :=
  ((s.dropWhile isBlank).reverse.dropWhile isBlank).reverse

/-- A text less the blanks at both ends; those inside it stay. -/
def trim (s : String) : String :=
  String.ofList (stripBlanks s.toList)

end Lexicon.Text
