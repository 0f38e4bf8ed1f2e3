import Lexicon.Json.Numeral
import Lexicon.Json.Quoted

/-!
# Strings, names and values of the wrong kind

The readers of single values: a string, and one of a fixed choice of names. Where a value of another
kind stands, it is read as far as its kind shows and named in the failure.

## Main definitions

* `found`, `mistyped` — the kind of the value that stands where another was expected.
* `string` — the reader of a string.
* `choice` — the reader of one of several names, written as a string or as an object.
-/

namespace Lexicon.Json

/-- The kind of a numeral that is taken off the front. One out of range is refused after its last
digit, or after the digit at which its exponent no longer fits. -/
def foundNumeral (negative : Bool) (s : List Char) : Except Failure (Found × List Char) :=
  match takeNumeral .cutValue negative s with
  | .error e => .error e
  | .ok (numeral, r) =>
    match numeral.found? with
    | some found => .ok (found, r)
    | none => .error ⟨.hugeNumber, bytes r + numeral.unread⟩

/-- The kind of a word, given the letters after its first. -/
def foundWord (kind : Found) (rest : String) (s : List Char) :
    Except Failure (Found × List Char) :=
  match wordEnd rest s with
  | .ok r => .ok (kind, r)
  | .error e => .error e

/-- The kind of the value at the front of a text that starts with no blank. Of an array or an
object the bracket is enough. -/
def found : List Char → Except Failure (Found × List Char)
  | [] => atEnd .cutValue
  | c :: s =>
    if c = 'n' then foundWord .null "ull" s
    else if c = 't' then foundWord (.boolean true) "rue" s
    else if c = 'f' then foundWord (.boolean false) "alse" s
    else if c = '-' then foundNumeral true s
    else if c.isDigit then foundNumeral false (c :: s)
    else if c = '"' then
      match readString [] s with
      | .ok (text, r) => .ok (.text text, r)
      | .error e => .error e
    else if c = '[' then .ok (.sequence, c :: s)
    else if c = '{' then .ok (.map, c :: s)
    else into (c :: s) .noValue

/-- Refuses a value because it is not of the expected kind, unless it is no value at all. -/
def mistyped {α : Type} (expected : String) (s : List Char) : Except Failure α :=
  match found s with
  | .ok (kind, r) => before r (.mistyped kind expected)
  | .error e => .error e

/-- A refused value is no value. -/
theorem mistyped_ne_ok {α : Type} {expected : String} {s : List Char} {a : α} :
    mistyped expected s ≠ .ok a := by
  intro h
  unfold mistyped at h
  split at h <;> cases h

/-! ## Strings -/

/-- Reads a string. -/
def string : Reader String where
  read s :=
    match skipBlank s with
    | [] => atEnd .cutValue
    | c :: r => if c = '"' then readString [] r else mistyped "a string" (c :: r)
  shorter {s a r} h := by
    split at h
    · cases h
    · next c t blank =>
      split at h
      · exact Nat.lt_trans (length_lt_of_readString h) (length_lt_of_skipBlank blank)
      · exact absurd h mistyped_ne_ok

/-! ## Names -/

section Choice

variable {α : Type} (options : List (String × α))

/-- Reads a name after its opening quote and picks what it stands for. -/
def pick (s : List Char) : Except Failure (α × List Char) :=
  match readString [] s with
  | .error e => .error e
  | .ok (name, r) =>
    match options.lookup name with
    | some a => .ok (a, r)
    | none => before r (.unknownVariant name (options.map Prod.fst))

/-- Reads `null`. -/
def nothing (s : List Char) : Except Failure (List Char) :=
  match skipBlank s with
  | [] => atEnd .cutValue
  | c :: r => if c = 'n' then wordEnd "ull" r else mistyped "unit" (c :: r)

/-- Reads a name as the key of an object's one member, whose value is `null`, after the opening
bracket. -/
def pickKey (s : List Char) : Except Failure (α × List Char) :=
  match skipBlank s with
  | [] => atEnd .cutObject
  | c :: r =>
    if c = '}' then into (c :: r) .noValue
    else if c = '"' then
      match pick options r with
      | .error e => .error e
      | .ok (a, s) =>
        match colon s with
        | .error e => .error e
        | .ok s =>
          match nothing s with
          | .error e => .error e
          | .ok s =>
            match skipBlank s with
            | [] => atEnd .cutObject
            | c :: r => if c = '}' then .ok (a, r) else before (c :: r) .noValue
    else into (c :: r) .keyNotString

variable {options}

theorem length_lt_of_pick {s r : List Char} {a : α} (h : pick options s = .ok (a, r)) :
    r.length < s.length := by
  unfold pick at h
  split at h
  · cases h
  · next name t read =>
    have := length_lt_of_readString read
    split at h
    · cases h
      exact this
    · cases h

theorem length_le_of_nothing {s r : List Char} (h : nothing s = .ok r) :
    r.length ≤ s.length := by
  unfold nothing at h
  split at h
  · cases h
  · next c t blank =>
    have := length_lt_of_skipBlank blank
    split at h
    · have := length_le_of_letters h
      omega
    · exact absurd h mistyped_ne_ok

theorem length_lt_of_pickKey {s r : List Char} {a : α} (h : pickKey options s = .ok (a, r)) :
    r.length < s.length := by
  unfold pickKey at h
  split at h
  · cases h
  · next c t blank =>
    have := length_lt_of_skipBlank blank
    split at h
    · cases h
    split at h
    · split at h
      · cases h
      · next b u picked =>
        have := length_lt_of_pick picked
        split at h
        · cases h
        · next v separated =>
          have := length_lt_of_colon separated
          split at h
          · cases h
          · next w null =>
            have := length_le_of_nothing null
            split at h
            · cases h
            · next d x blank =>
              have := length_lt_of_skipBlank blank
              split at h
              · cases h
                omega
              · cases h
    · cases h

variable (options)

/-- Reads one of several names: a string, or an object with the name as its only key. -/
def choice : Reader α where
  read s :=
    match skipBlank s with
    | [] => atEnd .cutValue
    | c :: r =>
      if c = '"' then pick options r
      else if c = '{' then pickKey options r
      else into (c :: r) .noValue
  shorter {s a r} h := by
    split at h
    · cases h
    · next c t blank =>
      have := length_lt_of_skipBlank blank
      split at h
      · have := length_lt_of_pick h
        omega
      split at h
      · have := length_lt_of_pickKey h
        omega
      · cases h

end Choice

end Lexicon.Json
