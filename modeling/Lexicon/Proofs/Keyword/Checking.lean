import Lexicon.Proofs.Keyword.Answers
import Lexicon.Proofs.Keyword.Building
import Lexicon.Proofs.Keyword.Classification
import Mathlib.Data.List.Perm.Subperm

/-!
# Building a keyword table from a list to be checked

`Table.checked` takes an entry if it is a keyword under its own spelling and its spelling has not
occurred before.  `Bad` lists the ways to miss that, by index and without any table, and
`ChecksExactly` says that they decide everything: a list without a bad entry becomes the table of
its entries, and any other is refused for its first bad entry, for a cause that this entry alone
decides (`causeOf`), even if a later one is bad in a worse way.

The entries that are not bad on their own account are the reserved words (`mem_reserved_iff`).  An
accepted list is therefore a selection of the reserved words in some order, which bounds its length
and makes every permutation of it acceptable.
-/

namespace Lexicon.Keyword.Table

open Taxonomy

variable {κ : Type} [Taxonomy κ] {entry : String × κ} {entries : List (String × κ)} {t : Table κ}

/-- The cause for which a bad entry is refused.  The first of the three faults that it has counts:
its category is no keyword, its spelling is not that of the category, its spelling is repeated. -/
def causeOf (entry : String × κ) : VocabularyError :=
  match spelling? entry.2 with
  | none => .notKeyword (label entry.2)
  | some expected =>
    if entry.1 = expected then .repeatedKeyword entry.1 else .misspelledKeyword entry.1 expected

/-- An entry that may follow `earlier`: a keyword under its own spelling, which is new. -/
def Suits (earlier : List (String × κ)) (entry : String × κ) : Prop :=
  spelling? entry.2 = some entry.1 ∧ IsNew earlier entry

theorem causeOf_of_own (own : spelling? entry.2 = some entry.1) :
    causeOf entry = .repeatedKeyword entry.1 := by
  rw [causeOf, own]
  exact if_pos rfl

/-- The check refuses all but keywords under their own spellings. -/
theorem checkEntry_of_not_own (other : spelling? entry.2 ≠ some entry.1) :
    checkEntry entry = .error (causeOf entry) := by
  rw [checkEntry, causeOf]
  cases spelled : spelling? entry.2 with
  | none => rfl
  | some expected =>
      have differs : entry.1 ≠ expected := fun same => other (by rw [spelled, same])
      simp only [if_neg differs]

/-- What passes the check is inserted. -/
theorem insertChecked_of_own (own : spelling? entry.2 = some entry.1) :
    t.insertChecked entry =
      match t.insertNew? entry with
      | some u => .ok u
      | none => .error (.repeatedKeyword entry.1) := by
  have passes : checkEntry entry = .ok () := by
    rw [checkEntry, own]
    exact if_pos rfl
  rw [insertChecked, passes]
  rfl

/-- **One checked insertion**: only an entry that suits is taken. -/
theorem appends_insertChecked : Appends (@insertChecked κ _) Suits causeOf where
  ok suits := by
    obtain ⟨u, added, entries⟩ := exists_insertNew? suits.2
    exact ⟨u, by rw [insertChecked_of_own suits.1, added], entries⟩
  error {t entry} misfit := by
    by_cases own : spelling? entry.2 = some entry.1
    · have listed : ¬ IsNew t.entries entry := fun new => misfit ⟨own, new⟩
      rw [insertChecked_of_own own, insertNew?_of_not_isNew listed, causeOf_of_own own]
    · rw [insertChecked, checkEntry_of_not_own own]
      rfl

/-! ## Which lists are accepted -/

theorem misfits_suits_eq_empty_iff :
    Misfits Suits entries = ∅ ↔
      (∀ entry ∈ entries, spelling? entry.2 = some entry.1) ∧ (entries.map Prod.fst).Nodup := by
  rw [← misfits_isNew_eq_empty_iff]
  exact misfits_and_eq_empty_iff

/-- A list of keywords under their own spellings, each once, becomes the table of its entries. -/
theorem checked_eq_ok_iff :
    checked entries = .ok t ↔
      (∀ entry ∈ entries, spelling? entry.2 = some entry.1) ∧ t.entries = entries := by
  rw [checked, appends_insertChecked.foldlM_eq_ok_iff, misfits_suits_eq_empty_iff]
  constructor
  · rintro ⟨⟨own, -⟩, same⟩
    exact ⟨own, same⟩
  · rintro ⟨own, rfl⟩
    exact ⟨⟨own, t.nodup⟩, rfl⟩

theorem exists_checked_iff :
    (∃ t, checked entries = .ok t) ↔
      (∀ entry ∈ entries, spelling? entry.2 = some entry.1) ∧ (entries.map Prod.fst).Nodup := by
  constructor
  · rintro ⟨t, ok⟩
    obtain ⟨own, rfl⟩ := checked_eq_ok_iff.1 ok
    exact ⟨own, t.nodup⟩
  · rintro ⟨own, nodup⟩
    exact ⟨⟨entries, nodup⟩, checked_eq_ok_iff.2 ⟨own, rfl⟩⟩

variable (κ) in
/-- There are as many reserved words as keyword categories. -/
theorem length_reserved : (reserved κ).length = (all : List κ).countP isKeyword := by
  rw [reserved, List.length_filterMap_eq_countP]
  congr 1
  funext c
  rw [Option.isSome_map, isKeyword]

/-- An accepted list is a selection of the reserved words, so it is not longer than they are. -/
theorem length_le_of_checked (h : checked entries = .ok t) :
    entries.length ≤ (all : List κ).countP isKeyword := by
  obtain ⟨own, rfl⟩ := checked_eq_ok_iff.1 h
  have selected : t.entries ⊆ reserved κ :=
    fun entry listed => mem_reserved_iff.2 (own entry listed)
  rw [← length_reserved]
  exact (List.subperm_of_subset t.nodup_entries selected).length_le

/-- The order of an accepted list does not matter. -/
theorem checked_of_perm (h : checked entries = .ok t) {permuted : List (String × κ)}
    (perm : permuted.Perm entries) : ∃ u, checked permuted = .ok u ∧ u.SameAnswers t := by
  obtain ⟨own, rfl⟩ := checked_eq_ok_iff.1 h
  obtain ⟨u, entries, same⟩ := exists_sameAnswers_of_perm t perm
  refine ⟨u, checked_eq_ok_iff.2 ⟨fun entry listed => ?_, entries⟩, same⟩
  exact own entry (perm.mem_iff.1 listed)

/-! ## Bad entries -/

/-- **The indices of the bad entries**: the category has no spelling, or the entry's spelling is
another one, or it occurred at a smaller index. -/
def Bad (entries : List (String × κ)) : Set Nat :=
  {i | ∃ s c, entries[i]? = some (s, c) ∧
    (spelling? c = none ∨ (∃ expected, spelling? c = some expected ∧ s ≠ expected) ∨
      ∃ j < i, ∃ d, entries[j]? = some (s, d))}

/-- A category is entered under its own spelling unless it has none or another one. -/
theorem spelling?_ne_some_iff {s : String} {c : κ} :
    spelling? c ≠ some s ↔
      spelling? c = none ∨ ∃ expected, spelling? c = some expected ∧ s ≠ expected := by
  cases spelling? c with
  | none => simp
  | some expected => simp [eq_comm]

/-- The bad entries are those that do not suit the entries before them. -/
theorem bad_eq_misfits (entries : List (String × κ)) : Bad entries = Misfits Suits entries := by
  ext i
  simp only [Bad, Misfits, Set.mem_ofPred_eq, Prod.exists, Suits, not_and_or,
    not_isNew_take_iff, ← or_assoc, ← spelling?_ne_some_iff, ne_eq]

/-- **Checking is exact** on a list of entries. -/
structure ChecksExactly (entries : List (String × κ)) : Prop where
  /-- The list is accepted exactly if no entry is bad. -/
  accepted_iff : (∃ t, checked entries = .ok t) ↔ Bad entries = ∅
  /-- Otherwise the bad entry of smallest index gives the cause. -/
  refused_iff : ∀ e, checked entries = .error e ↔
    ∃ i entry, IsLeast (Bad entries) i ∧ entries[i]? = some entry ∧ causeOf entry = e
  /-- It does so in every list that begins alike, whatever follows. -/
  whatever_follows : ∀ i entry, IsLeast (Bad entries) i → entries[i]? = some entry →
    ∀ others, others.take (i + 1) = entries.take (i + 1) →
      checked others = .error (causeOf entry)
  /-- The table of an accepted list answers as the list. -/
  shows : ∀ t, checked entries = .ok t → t.Shows entries
  /-- An accepted list is not longer than the list of keyword categories. -/
  bounded : ∀ t, checked entries = .ok t → entries.length ≤ (all : List κ).countP isKeyword
  /-- Its order does not matter. -/
  permuted : ∀ t, checked entries = .ok t → ∀ permuted, permuted.Perm entries →
    ∃ u, checked permuted = .ok u ∧ u.SameAnswers t

theorem checked_eq_error_iff {e : VocabularyError} :
    checked entries = .error e ↔
      ∃ i entry, IsLeast (Bad entries) i ∧ entries[i]? = some entry ∧ causeOf entry = e := by
  rw [checked, appends_insertChecked.foldlM_eq_error_iff, bad_eq_misfits]

/-- Whatever the entries of a list are, checking it is exact. -/
theorem checking_is_exact (entries : List (String × κ)) : ChecksExactly entries where
  accepted_iff := by
    rw [exists_checked_iff, bad_eq_misfits, misfits_suits_eq_empty_iff]
  refused_iff _ := checked_eq_error_iff
  whatever_follows := by
    intro i entry least found others same
    rw [bad_eq_misfits] at least
    have found' : others[i]? = some entry :=
      (getElem?_eq_of_take_eq same i.lt_succ_self).trans found
    have least' : IsLeast (Bad others) i := by
      rw [bad_eq_misfits]
      exact isLeast_misfits_congr same least
    exact checked_eq_error_iff.2 ⟨i, entry, least', found', rfl⟩
  shows := by
    intro t accepted
    exact shows_of_perm (List.Perm.of_eq (checked_eq_ok_iff.1 accepted).2)
  bounded _ := length_le_of_checked
  permuted _ accepted _ := checked_of_perm accepted

/-- Three entries of the list are bad, each in its own way, and the first of them decides; a list of
two reserved words is accepted in either order. -/
theorem checking_func_and_return :
    (∃ i entry,
      IsLeast (Bad [("let", Baseline.letKeyword), ("func", .fnKeyword), ("let", .letKeyword),
        ("+", .plus)]) i ∧
      [("let", Baseline.letKeyword), ("func", .fnKeyword), ("let", .letKeyword), ("+", .plus)][i]? =
        some entry ∧
      causeOf entry = .misspelledKeyword "func" "fn") ∧
    ∃ t : Table Extended, checked [("return", .returnKeyword), ("fn", .fnKeyword)] = .ok t ∧
      t.Shows [("return", .returnKeyword), ("fn", .fnKeyword)] ∧
      ∃ u, checked [("fn", .fnKeyword), ("return", .returnKeyword)] = .ok u ∧ u.SameAnswers t := by
  have accepted : checked [("return", Extended.returnKeyword), ("fn", .fnKeyword)] =
      .ok ⟨[("return", .returnKeyword), ("fn", .fnKeyword)], by decide⟩ := rfl
  refine ⟨((checking_is_exact _).refused_iff _).1 rfl, _, accepted, ?_, ?_⟩
  · exact (checking_is_exact _).shows _ accepted
  · exact (checking_is_exact _).permuted _ accepted _ (.swap _ _ _)

end Lexicon.Keyword.Table
