import Lexicon.Json.Bracket
import Lexicon.Json.Numeral
import Lexicon.Json.Quoted

/-!
# Skipping values

A value that nobody asked for is passed over: it has to be well formed, but its strings are not
decoded and its numbers not evaluated, and it may be nested to any depth. The brackets that are open
are kept on a stack, the innermost first, so that the depth costs no recursion.

## Main definitions

* `skipScalar` — passes over a word, a numeral or a string.
* `skip` — passes over the rest of a value inside open brackets.
-/

namespace Lexicon.Json

/-- Passes over a value that has no parts, given its first character. -/
def skipScalar (c : Char) (s : List Char) : Except Failure (List Char) :=
  if c = 'n' then wordEnd "ull" s
  else if c = 't' then wordEnd "rue" s
  else if c = 'f' then wordEnd "alse" s
  else if c = '"' then skipString s
  else if c = '-' then Prod.snd <$> takeNumeral .badNumber true s
  else if c.isDigit then Prod.snd <$> takeNumeral .badNumber false (c :: s)
  else into (c :: s) .noValue

/-- Passes over a key and its colon. -/
def skipKey (s : List Char) : Except Failure (List Char) :=
  match skipBlank s with
  | [] => atEnd .cutObject
  | c :: s =>
    if c = '"' then
      match skipString s with
      | .ok s => colon s
      | .error e => .error e
    else into (c :: s) .keyNotString

/-- Passes over what stands in front of an item's value: the key of a member. -/
def Bracket.skipLead : Bracket → List Char → Except Failure (List Char)
  | .square, s => .ok s
  | .curly, s => skipKey s

/-- The bracket that a character opens. -/
def Bracket.opened? (c : Char) : Option Bracket :=
  if c = '[' then some .square else if c = '{' then some .curly else none

/-- Where a skipped text stands. -/
inductive Position where
  /-- In front of a value. -/
  | value
  /-- After an opening bracket. -/
  | opened (b : Bracket)
  /-- After a value. -/
  | after

/-- An opening bracket is left behind without a character being taken. -/
def Position.rank : Position → Nat
  | .opened _ => 1
  | .value | .after => 0

theorem length_le_of_skipScalar {c : Char} {s r : List Char} (h : skipScalar c s = .ok r) :
    r.length ≤ s.length := by
  have numeral {negative : Bool} {t : List Char}
      (h : Prod.snd <$> takeNumeral .badNumber negative t = .ok r) : r.length < t.length := by
    cases taken : takeNumeral .badNumber negative t with
    | error e => rw [taken] at h; cases h
    | ok p =>
      rw [taken] at h
      cases h
      exact length_lt_of_takeNumeral taken
  unfold skipScalar at h
  split at h
  · exact length_le_of_letters h
  split at h
  · exact length_le_of_letters h
  split at h
  · exact length_le_of_letters h
  split at h
  · exact Nat.le_of_lt (length_lt_of_skipString h)
  split at h
  · exact Nat.le_of_lt (numeral h)
  split at h
  · exact Nat.le_of_lt_succ (numeral h)
  · cases h

theorem length_le_of_skipLead {b : Bracket} {s r : List Char} (h : b.skipLead s = .ok r) :
    r.length ≤ s.length := by
  cases b with
  | square => cases h; exact Nat.le_refl _
  | curly =>
    change skipKey s = .ok r at h
    unfold skipKey at h
    split at h
    · cases h
    · next c t skipped =>
      have := length_lt_of_skipBlank skipped
      split at h
      · split at h
        · next u read =>
          have := length_lt_of_skipString read
          have := length_lt_of_colon h
          omega
        · cases h
      · cases h

/-- Passes over the rest of a value: from `position` on, until all brackets of the stack are
closed. -/
def skip (position : Position) (stack : List Bracket) (s : List Char) :
    Except Failure (List Char) :=
  match position with
  | .value =>
    match blank : skipBlank s with
    | [] => atEnd .cutValue
    | c :: r =>
      have := length_lt_of_skipBlank blank
      match Bracket.opened? c with
      | some b => skip (.opened b) stack r
      | none =>
        match taken : skipScalar c r with
        | .ok t =>
          have := length_le_of_skipScalar taken
          skip .after stack t
        | .error e => .error e
  | .opened b =>
    match blank : skipBlank s with
    | [] => atEnd b.cut
    | c :: r =>
      have := length_lt_of_skipBlank blank
      if c = b.close then skip .after stack r
      else
        match lead : b.skipLead (c :: r) with
        | .ok t =>
          have := length_le_of_skipLead lead
          skip .value (b :: stack) t
        | .error e => .error e
  | .after =>
    match stack with
    | [] => .ok s
    | b :: stack =>
      match blank : skipBlank s with
      | [] => atEnd b.cut
      | c :: r =>
        have := length_lt_of_skipBlank blank
        if c = b.close then skip .after stack r
        else if c = ',' then
          match lead : b.skipLead r with
          | .ok t =>
            have := length_le_of_skipLead lead
            skip .value (b :: stack) t
          | .error e => .error e
        else into (c :: r) b.noComma
termination_by 2 * s.length + position.rank
decreasing_by
  all_goals simp only [List.length_cons, Position.rank] at *
  all_goals omega

/-! ## One turn of the loop -/

/-- The loop in front of a value. -/
theorem skip_value (stack : List Bracket) (s : List Char) :
    skip .value stack s =
      match skipBlank s with
      | [] => atEnd .cutValue
      | c :: r =>
        match Bracket.opened? c with
        | some b => skip (.opened b) stack r
        | none =>
          match skipScalar c r with
          | .ok t => skip .after stack t
          | .error e => .error e := by
  rw [skip]
  split
  · next blank => rw [blank]
  · next c r blank =>
    simp only [blank]
    cases Bracket.opened? c with
    | some b => rfl
    | none =>
      dsimp only
      split
      · next t taken => rw [taken]
      · next e taken => rw [taken]

/-- The loop after an opening bracket. -/
theorem skip_opened (b : Bracket) (stack : List Bracket) (s : List Char) :
    skip (.opened b) stack s =
      match skipBlank s with
      | [] => atEnd b.cut
      | c :: r =>
        if c = b.close then skip .after stack r
        else
          match b.skipLead (c :: r) with
          | .ok t => skip .value (b :: stack) t
          | .error e => .error e := by
  rw [skip]
  split
  · next blank => rw [blank]
  · next c r blank =>
    simp only [blank]
    split
    · rfl
    · split
      · next t taken => rw [taken]
      · next e taken => rw [taken]

/-- The loop after a value inside a bracket. -/
theorem skip_after (b : Bracket) (stack : List Bracket) (s : List Char) :
    skip .after (b :: stack) s =
      match skipBlank s with
      | [] => atEnd b.cut
      | c :: r =>
        if c = b.close then skip .after stack r
        else if c = ',' then
          match b.skipLead r with
          | .ok t => skip .value (b :: stack) t
          | .error e => .error e
        else into (c :: r) b.noComma := by
  rw [skip]
  split
  · next blank => rw [blank]
  · next c r blank =>
    simp only [blank]
    split
    · rfl
    · split
      · split
        · next t taken => rw [taken]
        · next e taken => rw [taken]
      · rfl

@[simp]
theorem skip_after_nil (s : List Char) : skip .after [] s = .ok s := by
  rw [skip]

/-! ## Something is taken -/

theorem length_le_of_skip {position : Position} {stack : List Bracket} {s r : List Char}
    (h : skip position stack s = .ok r) : r.length ≤ s.length := by
  fun_induction skip position stack s <;> first | cases h | skip
  all_goals first | exact Nat.le_refl _ | skip
  all_goals
    rename_i ih
    have := ih h
    try rw [List.length_cons] at *
    omega

theorem length_lt_of_skip_value {stack : List Bracket} {s r : List Char}
    (h : skip .value stack s = .ok r) : r.length < s.length := by
  rw [skip] at h
  split at h
  · cases h
  · next c t blank =>
    have := length_lt_of_skipBlank blank
    split at h
    · have := length_le_of_skip h
      omega
    · split at h
      · next u taken =>
        have := length_le_of_skipScalar taken
        have := length_le_of_skip h
        omega
      · cases h

/-- Passes over a value. -/
def skipped : Reader Unit where
  read s :=
    match skip .value [] s with
    | .ok r => .ok ((), r)
    | .error e => .error e
  shorter {s a r} h := by
    split at h
    · next t taken =>
      cases h
      exact length_lt_of_skip_value taken
    · cases h

end Lexicon.Json
