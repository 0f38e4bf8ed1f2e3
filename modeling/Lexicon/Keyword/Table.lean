import Lexicon.Taxonomy
import Lexicon.Traced

/-!
# Keyword tables

A keyword table assigns categories to spellings, each spelling once. It classifies the words of a
program: a listed word has its category, any other non-empty word is an identifier.

A table is built in one of two ways. `Table.ofEntries` takes a fixed list of any categories and
expects the caller to repeat no spelling; `Table.checked` takes a list that a scanner assembled and
refuses everything but keywords under their own spellings.

## Main definitions

* `Table`, `Table.get?`, `Table.contains`, `Table.size` — a table and its views.
* `Table.insertNew?` — the one operation that extends a table.
* `Table.ofEntries`, `Table.checked` — the two ways to build.
* `Table.classify` — the category of a word.
* `Table.shared` — the reserved words of a vocabulary.

## Design notes

The entries are kept in the order of arrival. No answer depends on that order but `entries` itself;
where an order is shown, `sortedEntries` gives the one by spelling.
-/

namespace Lexicon.Keyword

open Taxonomy

/-- Spellings with their categories, no spelling twice. -/
structure Table (κ : Type) where
  /-- The entries in the order of arrival. -/
  entries : List (String × κ)
  nodup : (entries.map Prod.fst).Nodup

namespace Table

variable {κ : Type}

/-- The table without entries. -/
def empty : Table κ := ⟨[], .nil⟩

/-- The category listed for a spelling. -/
def get? (t : Table κ) (spelling : String) : Option κ :=
  t.entries.lookup spelling

/-- Whether a spelling is listed. -/
def contains (t : Table κ) (spelling : String) : Bool :=
  (t.get? spelling).isSome

/-- The number of entries. -/
def size (t : Table κ) : Nat :=
  t.entries.length

/-- Whether the table has no entries. -/
def isEmpty (t : Table κ) : Bool :=
  t.entries.isEmpty

/-- The entries in the order of their spellings. -/
def sortedEntries (t : Table κ) : List (String × κ) :=
  t.entries.mergeSort fun a b => a.1 ≤ b.1

/-- Adds an entry, unless its spelling is listed already. -/
def insertNew? (t : Table κ) (entry : String × κ) : Option (Table κ) :=
  if h : entry.1 ∈ t.entries.map Prod.fst then none
  else some ⟨t.entries ++ [entry], by
    rw [List.map_append, List.nodup_append]
    refine ⟨t.nodup, by simp, fun a ha b hb => ?_⟩
    rintro rfl
    rw [List.map_singleton, List.mem_singleton] at hb
    exact h (hb ▸ ha)⟩

theorem insertNew?_eq_none_iff {t : Table κ} {entry : String × κ} :
    t.insertNew? entry = none ↔ entry.1 ∈ t.entries.map Prod.fst := by
  rw [insertNew?]
  split <;> simp_all

theorem entries_of_insertNew? {t u : Table κ} {entry : String × κ}
    (h : t.insertNew? entry = some u) : u.entries = t.entries ++ [entry] := by
  rw [insertNew?] at h
  split at h
  · cases h
  · cases h
    rfl

theorem get?_eq_some_iff {t : Table κ} {spelling : String} {c : κ} :
    t.get? spelling = some c ↔ (spelling, c) ∈ t.entries :=
  lookup_eq_some_iff t.nodup

theorem contains_iff {t : Table κ} {spelling : String} :
    t.contains spelling = true ↔ ∃ c, (spelling, c) ∈ t.entries := by
  rw [contains, Option.isSome_iff_exists]
  exact exists_congr fun c => get?_eq_some_iff

/-! ## Building -/

/-- Adds an entry whose spelling the caller promises to be new. -/
def insert (t : Table κ) (entry : String × κ) : Except Violation (Table κ) :=
  match t.insertNew? entry with
  | some u => .ok u
  | none => .error (.listedTwice entry.1)

variable [Taxonomy κ]

/-- Builds a table from a fixed list and reports its size. The first repeated spelling breaks the
caller's promise. -/
def ofEntries (entries : List (String × κ)) : Traced Violation (Table κ) := do
  let table ← Traced.ofExcept (entries.foldlM insert empty)
  Traced.report (.built (version κ) table.size)
  return table

/-- Refuses an entry that is not a keyword under its own spelling. -/
def checkEntry (entry : String × κ) : Except VocabularyError Unit :=
  match spelling? entry.2 with
  | none => .error (.notKeyword (label entry.2))
  | some expected =>
    if entry.1 = expected then .ok () else .error (.misspelledKeyword entry.1 expected)

/-- Adds an entry that is a keyword under its own spelling and new to the table. -/
def insertChecked (t : Table κ) (entry : String × κ) : Except VocabularyError (Table κ) := do
  checkEntry entry
  match t.insertNew? entry with
  | some u => return u
  | none => .error (.repeatedKeyword entry.1)

/-- Builds a table from a list that a scanner assembled; the first entry at fault decides. -/
def checked (entries : List (String × κ)) : Except VocabularyError (Table κ) :=
  entries.foldlM insertChecked empty

/-! ## Classification -/

/-- The category of a word: the listed one, or that of identifiers. A word has to have a
character. -/
def classify (t : Table κ) (word : String) : Traced Violation κ :=
  if word = "" then .fail .emptyLexeme
  else do
    let category := (t.get? word).getD ident
    Traced.report (.classified word (label category))
    return category

variable (κ) in
/-- The spellings of the reserved words are the spellings of the categories, in order. -/
theorem map_fst_reserved :
    (reserved κ).map Prod.fst = (all : List κ).filterMap spelling? := by
  rw [reserved, List.map_filterMap]
  congr 1
  funext c
  cases spelling? c <;> rfl

variable (κ) in
/-- The reserved words of a vocabulary. -/
def shared : Table κ :=
  ⟨reserved κ, by rw [map_fst_reserved]; exact nodup_spellings⟩

end Table

end Lexicon.Keyword
