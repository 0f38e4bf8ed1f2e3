import Lexicon.Json.Reader

/-!
# Brackets

What holds of arrays and objects alike: whether another item follows, and what may stand after the
last one.

## Design notes

A record may be refused by what it lacks or repeats, found out in the middle of its content. Such a
failure is placed where the search for the closing bracket comes to a halt, `Bracket.stop`.
-/

namespace Lexicon.Json

/-- The two kinds of brackets. -/
inductive Bracket where
  /-- The brackets of an array. -/
  | square
  /-- The brackets of an object. -/
  | curly
  deriving DecidableEq

namespace Bracket

/-- The closing bracket. -/
def close : Bracket → Char
  | .square => ']'
  | .curly => '}'

/-- The cause if the text ends inside the brackets. -/
def cut : Bracket → Cause
  | .square => .cutList
  | .curly => .cutObject

/-- The cause if an item is followed neither by a comma nor by the closing bracket. -/
def noComma : Bracket → Cause
  | .square => .noCommaInList
  | .curly => .noCommaInObject

/-- The first character of the next item and what follows it, or none if the closing bracket
follows. -/
def next (b : Bracket) (first : Bool) (s : List Char) :
    Except Failure (Option (Char × List Char)) :=
  match skipBlank s with
  | [] => atEnd b.cut
  | c :: r =>
    if c = b.close then .ok none
    else if first then .ok (some (c, r))
    else if c = ',' then
      match skipBlank r with
      | [] => atEnd .cutValue
      | d :: t => if d = b.close then into (d :: t) .trailingComma else .ok (some (d, t))
    else into (c :: r) b.noComma

/-- The text after the closing bracket, which has to follow. -/
def finish (b : Bracket) (s : List Char) : Except Failure (List Char) :=
  match skipBlank s with
  | [] => atEnd b.cut
  | c :: r =>
    if c = b.close then .ok r
    else if c = ',' then
      match b with
      | .curly => into (c :: r) .trailingComma
      | .square =>
        match skipBlank r with
        | ']' :: t => into (']' :: t) .trailingComma
        | t => into t .trailingText
    else into (c :: r) .trailingText

/-- How many bytes follow where the search for the closing bracket halts: after the bracket, in
front of what stands there instead, and in an array after a comma and the blanks behind it. -/
def stop (b : Bracket) (s : List Char) : Nat :=
  match skipBlank s with
  | [] => 0
  | c :: r =>
    if c = b.close then bytes r
    else if c = ',' ∧ b = .square then bytes (skipBlank r)
    else bytes (c :: r)

/-- A failure found in the content, placed where the search for the closing bracket halts. -/
def refuse {α : Type} (b : Bracket) (s : List Char) (cause : Cause) : Except Failure α :=
  .error ⟨cause, b.stop s⟩

theorem length_lt_of_next {b : Bracket} {first : Bool} {s t : List Char} {c : Char}
    (h : b.next first s = .ok (some (c, t))) : t.length < s.length := by
  unfold next at h
  split at h
  · cases h
  · next c r skipped =>
    have := length_lt_of_skipBlank skipped
    split at h
    · cases h
    · split at h
      · cases h
        exact this
      · split at h
        · split at h
          · cases h
          · next d u skipped =>
            have := length_lt_of_skipBlank skipped
            split at h
            · cases h
            · cases h
              omega
        · cases h

theorem length_lt_of_finish {b : Bracket} {s r : List Char} (h : b.finish s = .ok r) :
    r.length < s.length := by
  unfold finish at h
  split at h
  · cases h
  · next c t skipped =>
    have := length_lt_of_skipBlank skipped
    split at h
    · cases h
      exact this
    · split at h
      · split at h
        · cases h
        · split at h <;> cases h
      · cases h

end Bracket

end Lexicon.Json
