import Lexicon.Json.Failure

/-!
# Readers of JSON text

A reader takes a value off the front of the remaining characters. It carries the fact that
something was taken, which is why loops over elements and members come to an end.
-/

namespace Lexicon.Json

/-- A way to read a value of type `α` off the front of a text. -/
structure Reader (α : Type) where
  /-- The value and what remains after it, or why there is none. -/
  read : List Char → Except Failure (α × List Char)
  shorter : ∀ {s a r}, read s = .ok (a, r) → r.length < s.length

/-- Reads a value and converts it. -/
def Reader.map {α β : Type} (f : α → β) (reader : Reader α) : Reader β where
  read s :=
    match reader.read s with
    | .ok (a, r) => .ok (f a, r)
    | .error e => .error e
  shorter {s b r} h := by
    split at h
    · next a r' read =>
      cases h
      exact reader.shorter read
    · cases h

/-- The blanks of JSON, fewer than those of Unicode. -/
def isBlank (c : Char) : Bool :=
  c = ' ' || c = '\n' || c = '\t' || c = '\r'

/-- What remains after the blanks. -/
def skipBlank (s : List Char) : List Char :=
  s.dropWhile isBlank

theorem length_skipBlank_le (s : List Char) : (skipBlank s).length ≤ s.length :=
  (List.dropWhile_sublist _).length_le

theorem length_lt_of_skipBlank {s r : List Char} {c : Char} (h : skipBlank s = c :: r) :
    r.length < s.length := by
  have := length_skipBlank_le s
  rw [h, List.length_cons] at this
  omega

/-- Takes fixed letters off the front. `cut` is the cause if the text ends within them, `wrong` the
cause if another character stands there. -/
def letters (cut wrong : Cause) : List Char → List Char → Except Failure (List Char)
  | [], s => .ok s
  | _ :: _, [] => atEnd cut
  | letter :: rest, c :: s => if c = letter then letters cut wrong rest s else into (c :: s) wrong

theorem letters_eq_ok {cut wrong : Cause} {word s r : List Char}
    (h : letters cut wrong word s = .ok r) : s = word ++ r := by
  induction word generalizing s with
  | nil => cases h; rfl
  | cons letter rest ih =>
    cases s with
    | nil => cases h
    | cons c s =>
      rw [letters] at h
      split at h
      · next same => rw [same, ih h, List.cons_append]
      · cases h

theorem letters_append (cut wrong : Cause) (word r : List Char) :
    letters cut wrong word (word ++ r) = .ok r := by
  induction word with
  | nil => rfl
  | cons letter rest ih => rw [List.cons_append, letters, if_pos rfl, ih]

theorem length_le_of_letters {cut wrong : Cause} {word s r : List Char}
    (h : letters cut wrong word s = .ok r) : r.length ≤ s.length := by
  rw [letters_eq_ok h, List.length_append]
  omega

/-- The letters of a word, after its first one. -/
def wordEnd (rest : String) : List Char → Except Failure (List Char) :=
  letters .cutValue .noWord rest.toList

/-- The colon after a key. -/
def colon (s : List Char) : Except Failure (List Char) :=
  match skipBlank s with
  | [] => atEnd .cutObject
  | c :: r => if c = ':' then .ok r else into (c :: r) .noColon

theorem length_lt_of_colon {s r : List Char} (h : colon s = .ok r) : r.length < s.length := by
  rw [colon] at h
  split at h
  · cases h
  · next c rest skipped =>
    split at h
    · cases h
      exact length_lt_of_skipBlank skipped
    · cases h

end Lexicon.Json
