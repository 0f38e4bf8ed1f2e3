import Lexicon.Proofs.Keyword.Appending

/-!
# Building a keyword table from a fixed list

`Table.ofEntries` inserts the entries of its list one after another.  Only a repeated spelling stops
it, so the loop ends in a table exactly when that table's entries are the list
(`foldlM_insert_eq_ok_iff`).  The statement needs no side condition: repeated spellings are excluded
on the right-hand side by the table itself, which carries the fact that it has none.

The reserved words of a vocabulary are such a list, so the table that all classification goes
through is the one the builder makes of them (`outcome_ofEntries_reserved`).
-/

namespace Lexicon.Keyword.Table

open Taxonomy

variable {κ : Type}

/-- An entry with a new spelling can be added. -/
theorem exists_insertNew? {t : Table κ} {entry : String × κ} (new : IsNew t.entries entry) :
    ∃ u, t.insertNew? entry = some u ∧ u.entries = t.entries ++ [entry] := by
  cases added : t.insertNew? entry with
  | none => exact absurd (insertNew?_eq_none_iff.1 added) new
  | some u => exact ⟨u, rfl, entries_of_insertNew? added⟩

theorem insertNew?_of_not_isNew {t : Table κ} {entry : String × κ}
    (listed : ¬ IsNew t.entries entry) : t.insertNew? entry = none :=
  insertNew?_eq_none_iff.2 (Classical.not_not.1 listed)

/-- **One insertion**: only an entry that repeats a spelling is refused. -/
theorem appends_insert :
    Appends (@insert κ) IsNew fun entry => .listedTwice entry.1 where
  ok new := by
    obtain ⟨u, added, entries⟩ := exists_insertNew? new
    exact ⟨u, by rw [insert, added], entries⟩
  error listed := by
    rw [insert, insertNew?_of_not_isNew listed]

/-- **The building loop**: it succeeds with the table that has the list as its entries, if there is
one. -/
theorem foldlM_insert_eq_ok_iff {u : Table κ} {entries : List (String × κ)} :
    entries.foldlM insert empty = .ok u ↔ u.entries = entries := by
  rw [appends_insert.foldlM_eq_ok_iff, misfits_isNew_eq_empty_iff]
  constructor
  · rintro ⟨-, same⟩
    exact same
  · rintro rfl
    exact ⟨u.nodup, rfl⟩

variable [Taxonomy κ]

/-- The outcome of building from a fixed list is that of the loop. -/
theorem outcome_ofEntries (entries : List (String × κ)) :
    (ofEntries entries).outcome = entries.foldlM insert empty := by
  rw [ofEntries]
  cases entries.foldlM insert empty with
  | ok table => rfl
  | error broken => rfl

/-- A fixed list becomes the table of its entries, if it repeats no spelling. -/
theorem outcome_ofEntries_eq_ok_iff {entries : List (String × κ)} {u : Table κ} :
    (ofEntries entries).outcome = .ok u ↔ u.entries = entries := by
  rw [outcome_ofEntries, foldlM_insert_eq_ok_iff]

variable (κ) in
/-- The shared table of a vocabulary is what the builder makes of the reserved words. -/
theorem outcome_ofEntries_reserved :
    (ofEntries (reserved κ)).outcome = .ok (shared κ) :=
  outcome_ofEntries_eq_ok_iff.2 rfl

end Lexicon.Keyword.Table
