/-!
# Fields among the members of an object

A record that is written as an object may have its fields in any order and other members among them.
What a reader of such a record gathers is one optional value for each field, and for one field at a
time this is a question about the list of members: `Gathers key P before members after` says that
the members take what was gathered for `key` from `before` to `after`.

A field may occur once.  So nothing more is gathered for a field that has its value, and one without
a value either keeps having none or finds exactly one member with its key.
-/

namespace Lexicon.Json

variable {α β : Type} {key : String} {P : β → α → Prop} {before after : Option α}
variable {members : List (String × β)}

/-- The members with a key. -/
def membersAt (key : String) (members : List (String × β)) : List (String × β) :=
  members.filter fun m => m.1 = key

/-- **What the members add to what was gathered for a field**: `P` says which values it takes. -/
def Gathers (key : String) (P : β → α → Prop) (before : Option α) (members : List (String × β))
    (after : Option α) : Prop :=
  match before with
  | some a => membersAt key members = [] ∧ after = some a
  | none =>
    (membersAt key members = [] ∧ after = none) ∨
      ∃ v a, membersAt key members = [(key, v)] ∧ P v a ∧ after = some a

/-- **What one member adds**: nothing if its key is another, and its value if there was none. -/
def Adds (key : String) (P : β → α → Prop) (k : String) (v : β) (before after : Option α) : Prop :=
  (k ≠ key ∧ after = before) ∨ (k = key ∧ before = none ∧ ∃ a, P v a ∧ after = some a)

theorem adds_self {v : β} :
    Adds key P key v before after ↔ before = none ∧ ∃ a, P v a ∧ after = some a := by
  simp [Adds]

theorem adds_of_ne {k : String} {v : β} (h : k ≠ key) :
    Adds key P k v before after ↔ after = before := by
  simp [Adds, h]

theorem gathers_nil : Gathers key P before [] after ↔ after = before := by
  cases before with
  | some a => simp [Gathers, membersAt]
  | none => simp [Gathers, membersAt]

/-- A member with another key adds nothing. -/
theorem gathers_cons_of_ne {k : String} {v : β} (h : k ≠ key) :
    Gathers key P before ((k, v) :: members) after ↔ Gathers key P before members after := by
  have same : membersAt key ((k, v) :: members) = membersAt key members :=
    List.filter_cons_of_neg (by simpa using h)
  unfold Gathers
  rw [same]

/-- A member with the key of the field is the first one, and gives the field its value. -/
theorem gathers_cons_self {v : β} :
    Gathers key P before ((key, v) :: members) after ↔
      before = none ∧ ∃ a, P v a ∧ Gathers key P (some a) members after := by
  have found : membersAt key ((key, v) :: members) = (key, v) :: membersAt key members :=
    List.filter_cons_of_pos (by simp)
  cases before with
  | some a => simp [Gathers, found]
  | none =>
      simp only [Gathers, found, reduceCtorEq, false_and, false_or, true_and]
      constructor
      · rintro ⟨u, a, same, value, rfl⟩
        rw [List.cons.injEq, Prod.mk.injEq] at same
        obtain ⟨⟨-, rfl⟩, rest⟩ := same
        exact ⟨a, value, rest, rfl⟩
      · rintro ⟨a, value, rest, rfl⟩
        exact ⟨v, a, by rw [rest], value, rfl⟩

/-- **One member after another.** -/
theorem gathers_cons_iff {k : String} {v : β} :
    Gathers key P before ((k, v) :: members) after ↔
      ∃ next, Adds key P k v before next ∧ Gathers key P next members after := by
  by_cases same : k = key
  · subst same
    rw [gathers_cons_self]
    simp only [adds_self]
    constructor
    · rintro ⟨absent, a, value, rest⟩
      exact ⟨some a, ⟨absent, a, value, rfl⟩, rest⟩
    · rintro ⟨_, ⟨absent, a, value, rfl⟩, rest⟩
      exact ⟨absent, a, value, rest⟩
  · simp only [gathers_cons_of_ne same, adds_of_ne same, exists_eq_left]

/-- A field without a value gets one from exactly one member. -/
theorem gathers_none_some {a : α} :
    Gathers key P none members (some a) ↔ ∃ v, membersAt key members = [(key, v)] ∧ P v a := by
  constructor
  · rintro (⟨-, none⟩ | ⟨v, b, once, value, same⟩)
    · cases none
    · cases same
      exact ⟨v, once, value⟩
  · rintro ⟨v, once, value⟩
    exact .inr ⟨v, a, once, value, rfl⟩

end Lexicon.Json
