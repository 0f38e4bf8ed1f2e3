/-!
# Written JSON text

How string literals and objects are written: without blanks, an object's members in the order
given, and in strings only what has to be escaped.
-/

namespace Lexicon.Json

/-- The last character below which JSON has every character of a string escaped. -/
def controlEnd : Nat := 0x20

/-- The characters with a letter of their own after a backslash, which are also those that may be
written so. -/
def letterEscapes : List (Char × Char) :=
  [('"', '"'), ('\\', '\\'), ('\x08', 'b'), ('\x0c', 'f'), ('\n', 'n'), ('\r', 'r'), ('\t', 't')]

/-- How one character is written inside a string literal. -/
def escape (c : Char) : List Char :=
  match letterEscapes.lookup c with
  | some letter => ['\\', letter]
  | none =>
    if c.toNat < controlEnd then
      ['\\', 'u', '0', '0', Nat.digitChar (c.toNat / 16), Nat.digitChar (c.toNat % 16)]
    else [c]

/-- A string literal. -/
def literal (s : String) : List Char :=
  '"' :: (s.toList.flatMap escape ++ ['"'])

/-- A member of an object, its value already written. -/
def member (key : String) (value : List Char) : List Char :=
  literal key ++ ':' :: value

/-- An object, its members already written. -/
def object (members : List (List Char)) : List Char :=
  '{' :: (List.intercalate [','] members ++ ['}'])

/-- An array, its elements already written. -/
def array (elements : List (List Char)) : List Char :=
  '[' :: (List.intercalate [','] elements ++ [']'])

end Lexicon.Json
