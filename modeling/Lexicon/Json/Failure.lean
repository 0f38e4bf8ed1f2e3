import Lexicon.Json.Cause

/-!
# Failures of reading JSON text

A failed reading has a cause and a place.

## Main definitions

* `Failure` — a cause with its distance from the end of the text.
* `Error` — a cause with its line and column.

## Design notes

Readers work on the characters that remain, so a failure is placed by how many bytes of the text
follow it; only the whole text turns that into a line and a column. Places count bytes of UTF-8, and
one that lies one byte past the start of a longer character stays inside that character.
-/

namespace Lexicon.Json

/-- A cause with its place, given as the number of bytes that follow it. -/
structure Failure where
  cause : Cause
  left : Nat
  deriving DecidableEq

/-- The number of bytes that a text takes. -/
def bytes (s : List Char) : Nat :=
  s.foldr (fun c n => c.utf8Size + n) 0

/-- A failure at the end of the text. -/
def atEnd {α : Type} (cause : Cause) : Except Failure α :=
  .error ⟨cause, 0⟩

/-- A failure in front of what remains. -/
def before {α : Type} (s : List Char) (cause : Cause) : Except Failure α :=
  .error ⟨cause, bytes s⟩

/-- A failure one byte into what remains. -/
def into {α : Type} (s : List Char) (cause : Cause) : Except Failure α :=
  .error ⟨cause, bytes s - 1⟩

/-- A place in a text: the line, counted from one, and the bytes before it on that line. -/
structure Place where
  line : Nat
  column : Nat
  deriving DecidableEq

/-- The place `n` bytes further on in a text that starts at `p`. -/
def Place.advance (p : Place) (n : Nat) : List Char → Place
  | [] => p
  | c :: s =>
    if n = 0 then p
    else if c = '\n' then advance ⟨p.line + 1, 0⟩ (n - 1) s
    else advance ⟨p.line, p.column + min n c.utf8Size⟩ (n - c.utf8Size) s

/-- A refused text: the cause with its place. -/
structure Error where
  cause : Cause
  place : Place
  deriving DecidableEq

/-- The sentence shown to a user. -/
def Error.message (e : Error) : String :=
  e.cause.message ++ " at line " ++ toString e.place.line ++ " column " ++ toString e.place.column

/-- Places a failure in the whole text. -/
def Failure.locate (f : Failure) (text : List Char) : Error :=
  ⟨f.cause, Place.advance ⟨1, 0⟩ (bytes text - f.left) text⟩

end Lexicon.Json
