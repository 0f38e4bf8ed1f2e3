import Lexicon.Text.GraphemeExtend
import Lexicon.Text.Unprintable

/-!
# Quoted text

Diagnostics and log lines show text that came from outside between double quotes, written so that
it can neither end its quotes nor break the line: a quote and a backslash are escaped, and a
character with no visible shape of its own is spelled out by its code point.  The diagnostic form of
a record lists such texts as its fields, between braces.

## Main definitions

* `hidden` — the characters that are never shown as themselves.
* `Quoted.escape`, `Quoted.encode` — the form of one character and of a whole text.
* `quote` — a text between its quotes.
* `braced` — the fields of a record between its braces.
-/

namespace Lexicon.Text

/-- A character that does not show as a shape of its own: it extends the one before it, or it is
a control, format, private, unassigned or blank character other than the plain space. -/
def hidden (c : Char) : Bool :=
  graphemeExtend.contains c.toNat || unprintable.contains c.toNat

/-- A character is hidden if one of the two tables has it. -/
theorem hidden_iff {c : Char} :
    hidden c = true ↔
      (∃ range ∈ graphemeExtend, range.1 ≤ c.toNat ∧ c.toNat ≤ range.2) ∨
      ∃ range ∈ unprintable, range.1 ≤ c.toNat ∧ c.toNat ≤ range.2 := by
  rw [hidden, Bool.or_eq_true, Ranges.contains_iff graphemeExtend_ascending,
    Ranges.contains_iff unprintable_ascending]

namespace Quoted

/-- The code point in hexadecimal, lower case and without leading zeros, in braces after `\u`. -/
def codePoint (c : Char) : List Char :=
  '\\' :: 'u' :: '{' :: Nat.toDigits 16 c.toNat ++ ['}']

/-- How one character is written inside quotes. -/
def escape (c : Char) : List Char :=
  if c = '"' then ['\\', '"']
  else if c = '\\' then ['\\', '\\']
  else if c = '\n' then ['\\', 'n']
  else if c = '\r' then ['\\', 'r']
  else if c = '\t' then ['\\', 't']
  else if c = '\x00' then ['\\', '0']
  else if hidden c then codePoint c
  else [c]

/-- How a text is written inside quotes: character by character. -/
def encode (s : List Char) : List Char :=
  s.flatMap escape

@[simp]
theorem encode_nil : encode [] = [] := rfl

@[simp]
theorem encode_cons (c : Char) (s : List Char) : encode (c :: s) = escape c ++ encode s := rfl

end Quoted

/-- A text in double quotes. -/
def quote (s : String) : String :=
  String.ofList ('"' :: Quoted.encode s.toList ++ ['"'])

/-- The fields of a record in braces, each behind its name: the diagnostic form of its contents. -/
def braced (fields : List (String × String)) : String :=
  String.singleton '{' ++ " " ++
    String.intercalate ", " (fields.map fun field => field.1 ++ ": " ++ field.2) ++ " " ++
    String.singleton '}'

theorem braced_pair (a v b w : String) :
    braced [(a, v), (b, w)] =
      String.singleton '{' ++ " " ++ (a ++ ": " ++ v ++ ", " ++ (b ++ ": " ++ w)) ++ " " ++
        String.singleton '}' := by
  rw [braced, List.map_cons, List.map_cons, List.map_nil, String.intercalate_cons_cons,
    String.intercalate_singleton]

end Lexicon.Text
