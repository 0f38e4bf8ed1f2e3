import Lexicon.Json.Bracket
import Lexicon.Json.Scalar

/-!
# Arrays and objects

The readers of values with parts. An array of equal items is read into a list. An object is read
member by member into a state: for each key, a visitor says how its value is to be read and what
becomes of the state, or refuses the key before its colon.

## Main definitions

* `list` — the reader of an array of equal items.
* `record`, `field`, `members` — the reader of a record, and of its parts in its two forms.
* `decode` — a whole text read as one value.
-/

namespace Lexicon.Json

variable {α : Type}

/-- Reads the items of an array up to its closing bracket; `done` holds those read before, the last
one first. -/
def items (item : Reader α) (done : List α) (s : List Char) :
    Except Failure (List α × List Char) :=
  match found : Bracket.square.next done.isEmpty s with
  | .error e => .error e
  | .ok none => .ok (done.reverse, s)
  | .ok (some (c, t)) =>
    match read : item.read (c :: t) with
    | .error e => .error e
    | .ok (a, r) =>
      have := Bracket.length_lt_of_next found
      have := item.shorter read
      items item (a :: done) r
termination_by s.length
decreasing_by
  rw [List.length_cons] at *
  omega

/-- One turn of the loop over items. -/
theorem items_eq (item : Reader α) (done : List α) (s : List Char) :
    items item done s =
      match Bracket.square.next done.isEmpty s with
      | .error e => .error e
      | .ok none => .ok (done.reverse, s)
      | .ok (some (c, t)) =>
        match item.read (c :: t) with
        | .error e => .error e
        | .ok (a, r) => items item (a :: done) r := by
  rw [items]
  split
  · next found => simp only [found]
  · next found => simp only [found]
  · next found =>
    simp only [found]
    split
    · next read => rw [read]
    · next read => rw [read]

theorem length_le_of_items {item : Reader α} {done as : List α} {s r : List Char}
    (h : items item done s = .ok (as, r)) : r.length ≤ s.length := by
  fun_induction items item done s with
  | case1 => cases h
  | case2 => cases h; exact Nat.le_refl _
  | case3 => cases h
  | case4 done s c t found a r' read le lt ih =>
    have := ih h
    rw [List.length_cons] at lt
    omega

/-- A way to read what stands between two brackets, up to the closing one. -/
structure Content (α : Type) where
  /-- The value and what remains after it, or why there is none. -/
  read : List Char → Except Failure (α × List Char)
  notLonger : ∀ {s a r}, read s = .ok (a, r) → r.length ≤ s.length

/-- Reads the content of brackets and the closing bracket. -/
def Bracket.enclosed (b : Bracket) (content : Content α) (s : List Char) :
    Except Failure (α × List Char) :=
  match content.read s with
  | .error e => .error e
  | .ok (a, t) =>
    match b.finish t with
    | .ok r => .ok (a, r)
    | .error e => .error e

theorem length_lt_of_enclosed {b : Bracket} {content : Content α} {s r : List Char} {a : α}
    (h : b.enclosed content s = .ok (a, r)) : r.length < s.length := by
  unfold Bracket.enclosed at h
  split at h
  · cases h
  · next c t read =>
    have := content.notLonger read
    split at h
    · next u closed =>
      have := Bracket.length_lt_of_finish closed
      cases h
      omega
    · cases h

/-- Reads an array. -/
def list (item : Reader α) : Reader (List α) where
  read s :=
    match skipBlank s with
    | [] => atEnd .cutValue
    | c :: r =>
      if c = '[' then Bracket.square.enclosed ⟨items item [], length_le_of_items⟩ r
      else mistyped "a sequence" (c :: r)
  shorter {s as r} h := by
    split at h
    · cases h
    · next c t blank =>
      have := length_lt_of_skipBlank blank
      split at h
      · have := length_lt_of_enclosed h
        omega
      · exact absurd h mistyped_ne_ok

/-! ## Records -/

/-- Reads a record, which may be written as an array of its fields or as an object. -/
def record (name : String) (ofArray ofObject : Content α) : Reader α where
  read s :=
    match skipBlank s with
    | [] => atEnd .cutValue
    | c :: r =>
      if c = '[' then Bracket.square.enclosed ofArray r
      else if c = '{' then Bracket.curly.enclosed ofObject r
      else mistyped ("struct " ++ name) (c :: r)
  shorter {s as r} h := by
    split at h
    · cases h
    · next c t blank =>
      have := length_lt_of_skipBlank blank
      split at h
      · have := length_lt_of_enclosed h
        omega
      split at h
      · have := length_lt_of_enclosed h
        omega
      · exact absurd h mistyped_ne_ok

/-- Reads the field at an index of a record of so many fields that is written as an array. -/
def field (name : String) (fields index : Nat) (reader : Reader α) (s : List Char) :
    Except Failure (α × List Char) :=
  match Bracket.square.next (index == 0) s with
  | .error e => .error e
  | .ok none => Bracket.square.refuse s (.tooShort index name fields)
  | .ok (some (c, t)) => reader.read (c :: t)

theorem length_le_of_field {name : String} {fields index : Nat} {reader : Reader α}
    {s r : List Char} {a : α} (h : field name fields index reader s = .ok (a, r)) :
    r.length ≤ s.length := by
  unfold field at h
  split at h
  · cases h
  · cases h
  · next c t found =>
    have := Bracket.length_lt_of_next found
    have := reader.shorter h
    rw [List.length_cons] at this
    omega

/-- How a record takes its members: the key decides how the value is read and what it makes of the
state, or why the key is refused. -/
abbrev Visitor (σ : Type) := σ → String → Except Cause (Reader σ)

variable {σ : Type}

/-- Reads the members of an object up to its closing bracket. -/
def members (visit : Visitor σ) (first : Bool) (state : σ) (s : List Char) :
    Except Failure (σ × List Char) :=
  match found : Bracket.curly.next first s with
  | .error e => .error e
  | .ok none => .ok (state, s)
  | .ok (some (c, t)) =>
    if c = '"' then
      match key : readString [] t with
      | .error e => .error e
      | .ok (name, r) =>
        match visit state name with
        | .error cause => Bracket.curly.refuse r cause
        | .ok value =>
          match separated : colon r with
          | .error e => .error e
          | .ok u =>
            match read : value.read u with
            | .error e => .error e
            | .ok (state, v) =>
              have := Bracket.length_lt_of_next found
              have := length_lt_of_readString key
              have := length_lt_of_colon separated
              have := value.shorter read
              members visit false state v
    else into (c :: t) .keyNotString
termination_by s.length

/-- One turn of the loop over members. -/
theorem members_eq (visit : Visitor σ) (first : Bool) (state : σ) (s : List Char) :
    members visit first state s =
      match Bracket.curly.next first s with
      | .error e => .error e
      | .ok none => .ok (state, s)
      | .ok (some (c, t)) =>
        if c = '"' then
          match readString [] t with
          | .error e => .error e
          | .ok (name, r) =>
            match visit state name with
            | .error cause => Bracket.curly.refuse r cause
            | .ok value =>
              match colon r with
              | .error e => .error e
              | .ok u =>
                match value.read u with
                | .error e => .error e
                | .ok (state, v) => members visit false state v
        else into (c :: t) .keyNotString := by
  rw [members]
  split
  · next found => simp only [found]
  · next found => simp only [found]
  · next found =>
    simp only [found]
    split
    · split
      · next key => simp only [key]
      · next key =>
        simp only [key]
        split
        · rfl
        · split
          · next separated => simp only [separated]
          · next separated =>
            simp only [separated]
            split
            · next read => rw [read]
            · next read => rw [read]
    · rfl

theorem length_le_of_members {visit : Visitor σ} {first : Bool} {state out : σ} {s r : List Char}
    (h : members visit first state s = .ok (out, r)) : r.length ≤ s.length := by
  fun_induction members visit first state s <;> first | cases h | skip
  all_goals first | exact Nat.le_refl _ | skip
  rename_i ih
  have := ih h
  omega

/-- Reads one value that takes up the whole text, blanks aside. -/
def decode (reader : Reader α) (text : String) : Except Error α :=
  let whole := text.toList
  let result : Except Failure α :=
    match reader.read whole with
    | .error e => .error e
    | .ok (a, r) => if skipBlank r = [] then .ok a else into (skipBlank r) .trailingText
  result.mapError fun failure => failure.locate whole

end Lexicon.Json
