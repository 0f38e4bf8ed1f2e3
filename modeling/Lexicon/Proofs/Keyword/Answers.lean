import Lexicon.Keyword.Table
import Mathlib.Data.List.Nodup

/-!
# What a table answers

A table is asked in six ways: for the category of a spelling, whether it has one, for the category
of a word, for its entries, for their number, and whether there are any.  No answer depends on the
order of the entries but the entries themselves, and these are promised in no order.

## Main definitions

* `Shows` — the answers of a table are those of a list.
* `SameAnswers` — two tables cannot be told apart by asking.
-/

namespace Lexicon.Keyword.Table

variable {κ : Type} {t u : Table κ} {entries : List (String × κ)}

/-- **A table shows a list**: what it answers is read off the list, and each entry of the list is
one of its own exactly once. -/
structure Shows (t : Table κ) (entries : List (String × κ)) : Prop where
  get : ∀ spelling c, t.get? spelling = some c ↔ (spelling, c) ∈ entries
  contains : ∀ spelling, t.contains spelling = true ↔ ∃ c, t.get? spelling = some c
  perm : t.entries.Perm entries
  nodup : t.entries.Nodup
  size : t.size = entries.length
  isEmpty : t.isEmpty = true ↔ t.size = 0

/-- Entries of different spellings are different. -/
theorem nodup_entries (t : Table κ) : t.entries.Nodup :=
  List.Nodup.of_map Prod.fst t.nodup

/-- A table shows its entries, in any order. -/
theorem shows_of_perm (h : t.entries.Perm entries) : t.Shows entries where
  get _ _ := get?_eq_some_iff.trans h.mem_iff
  contains _ := Option.isSome_iff_exists
  perm := h
  nodup := t.nodup_entries
  size := h.length_eq
  isEmpty := List.isEmpty_iff_length_eq_zero

/-- A listed spelling has an entry. -/
theorem mem_map_fst_of_get? {spelling : String} {c : κ} (found : t.get? spelling = some c) :
    spelling ∈ t.entries.map Prod.fst :=
  List.mem_map.2 ⟨_, get?_eq_some_iff.1 found, rfl⟩

/-- And only a listed spelling has an answer. -/
theorem get?_eq_none_iff {spelling : String} :
    t.get? spelling = none ↔ spelling ∉ t.entries.map Prod.fst := by
  constructor
  · intro absent listed
    obtain ⟨⟨s, c⟩, member, rfl⟩ := List.mem_map.1 listed
    rw [get?_eq_some_iff.2 member] at absent
    cases absent
  · intro unlisted
    rw [Option.eq_none_iff_forall_ne_some]
    intro c found
    exact unlisted (mem_map_fst_of_get? found)

/-- **Two tables answer alike.** -/
structure SameAnswers [Taxonomy κ] (t u : Table κ) : Prop where
  get : ∀ word, t.get? word = u.get? word
  contains : ∀ word, t.contains word = u.contains word
  classify : ∀ word, t.classify word = u.classify word
  entries : t.entries.Perm u.entries
  size : t.size = u.size
  isEmpty : t.isEmpty = u.isEmpty

theorem get?_eq_of_perm (h : t.entries.Perm u.entries) (word : String) :
    t.get? word = u.get? word := by
  ext c
  rw [get?_eq_some_iff, get?_eq_some_iff, h.mem_iff]

/-- Tables with the same entries answer alike. -/
theorem sameAnswers_of_perm [Taxonomy κ] (h : t.entries.Perm u.entries) : t.SameAnswers u where
  get := get?_eq_of_perm h
  contains word := congrArg Option.isSome (get?_eq_of_perm h word)
  classify word := by rw [classify, classify, get?_eq_of_perm h]
  entries := h
  size := h.length_eq
  isEmpty := by rw [isEmpty, isEmpty, h.isEmpty_eq]

/-- The entries of a table make one in any order, and it answers alike. -/
theorem exists_sameAnswers_of_perm [Taxonomy κ] (t : Table κ) {permuted : List (String × κ)}
    (perm : permuted.Perm t.entries) :
    ∃ u : Table κ, u.entries = permuted ∧ u.SameAnswers t := by
  have nodup : (permuted.map Prod.fst).Nodup := (perm.map Prod.fst).nodup_iff.2 t.nodup
  exact ⟨⟨permuted, nodup⟩, rfl, sameAnswers_of_perm perm⟩

end Lexicon.Keyword.Table
