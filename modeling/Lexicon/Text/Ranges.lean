/-!
# Ranges of code points

A property of characters is given as a table of closed ranges of code points, in ascending order.
Membership gives up at the first range that starts above the code point, so a common character is
decided near the head of its table.

## Main statements

* `Ranges.contains_iff` — in an ascending table, membership is lying in one of the ranges.
-/

namespace Lexicon.Text

/-- A table of closed ranges `(first, last)` of code points. -/
abbrev Ranges := List (Nat × Nat)

namespace Ranges

/-- The ranges are non-empty, and each ends before the next one starts. -/
def Ascending : Ranges → Prop
  | [] => True
  | [range] => range.1 ≤ range.2
  | range :: next :: rest => range.1 ≤ range.2 ∧ range.2 < next.1 ∧ Ascending (next :: rest)

/-- Ascent is checked pair by pair along the table. -/
def decideAscending : (table : Ranges) → Decidable table.Ascending
  | [] => inferInstanceAs (Decidable True)
  | [range] => inferInstanceAs (Decidable (range.1 ≤ range.2))
  | range :: next :: rest =>
    have := decideAscending (next :: rest)
    inferInstanceAs (Decidable (range.1 ≤ range.2 ∧ range.2 < next.1 ∧ Ascending (next :: rest)))

instance (table : Ranges) : Decidable table.Ascending := decideAscending table

/-- In an ascending table every later range starts after the end of the first. -/
theorem Ascending.first_lt {range : Nat × Nat} {rest : Ranges}
    (h : Ascending (range :: rest)) : ∀ later ∈ rest, range.2 < later.1 := by
  induction rest generalizing range with
  | nil => simp
  | cons next rest ih =>
    intro later member
    rcases List.mem_cons.1 member with rfl | member
    · exact h.2.1
    · have reach := ih h.2.2 later member
      have proper : next.1 ≤ next.2 := by
        cases rest with
        | nil => exact h.2.2
        | cons => exact h.2.2.1
      have := h.2.1
      omega

theorem Ascending.proper {range : Nat × Nat} {rest : Ranges}
    (h : Ascending (range :: rest)) : range.1 ≤ range.2 := by
  cases rest with
  | nil => exact h
  | cons => exact h.1

theorem Ascending.tail {range : Nat × Nat} {rest : Ranges}
    (h : Ascending (range :: rest)) : Ascending rest := by
  cases rest with
  | nil => trivial
  | cons => exact h.2.2

/-- Looks a code point up, stopping at the first range above it. -/
def contains : Ranges → Nat → Bool
  | [], _ => false
  | (first, last) :: rest, n => first ≤ n && (n ≤ last || contains rest n)

@[simp]
theorem contains_nil (n : Nat) : contains [] n = false := rfl

theorem contains_cons (range : Nat × Nat) (rest : Ranges) (n : Nat) :
    contains (range :: rest) n = (range.1 ≤ n && (n ≤ range.2 || contains rest n)) := rfl

/-- In an ascending table the early exit loses nothing. -/
theorem contains_iff {table : Ranges} (ascending : table.Ascending) (n : Nat) :
    table.contains n = true ↔ ∃ range ∈ table, range.1 ≤ n ∧ n ≤ range.2 := by
  induction table with
  | nil => simp
  | cons range rest ih =>
    rw [contains_cons, Bool.and_eq_true, Bool.or_eq_true, decide_eq_true_eq, decide_eq_true_eq,
      ih ascending.tail]
    constructor
    · rintro ⟨lower, upper | ⟨r, member, bounds⟩⟩
      · exact ⟨range, List.mem_cons_self, lower, upper⟩
      · exact ⟨r, List.mem_cons_of_mem _ member, bounds⟩
    · rintro ⟨r, member, bounds⟩
      rcases List.mem_cons.1 member with rfl | later
      · exact ⟨bounds.1, .inl bounds.2⟩
      · have := ascending.first_lt r later
        have := ascending.proper
        exact ⟨by omega, .inr ⟨r, later, bounds⟩⟩

end Ranges

end Lexicon.Text
