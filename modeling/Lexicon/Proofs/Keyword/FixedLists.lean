import Lexicon.Proofs.Keyword.Answers
import Lexicon.Proofs.Keyword.Widening

/-!
# Fixed lists of keywords

A fixed list may put any spelling, the empty one included, under any category; the one promise that
its author makes is to repeat no spelling.  `BuildsExactly` says that this promise decides
everything: a list that keeps it becomes the table of its entries, with nothing lost, doubled or
overwritten, and any other breaks the run at its first repetition, for the spelling found there.

`Repeats` is the set of the indices at which a spelling occurs again.  It is a set of the spellings
alone (`isLeast_repeats_congr`), so neither the categories nor what follows the first repetition
have a say in the failure.
-/

namespace Lexicon.Keyword.Table

open Taxonomy
open Text (quote)

variable {κ : Type} {entries others : List (String × κ)} {i : Nat}

/-! ## Repetitions -/

/-- **The indices of the repetitions**: the spelling there occurred at a smaller index. -/
def Repeats (entries : List (String × κ)) : Set Nat :=
  {i | ∃ s c, entries[i]? = some (s, c) ∧ ∃ j < i, ∃ d, entries[j]? = some (s, d)}

/-- The repetitions are the entries that a table cannot take. -/
theorem repeats_eq_misfits (entries : List (String × κ)) :
    Repeats entries = Misfits IsNew entries := by
  ext i
  simp only [Repeats, Misfits, Set.mem_ofPred_eq, Prod.exists, not_isNew_take_iff]

/-- Converting categories leaves the repetitions where they are. -/
theorem repeats_convertEntries {ι : Type} (f : κ → ι) (entries : List (String × κ)) :
    Repeats (convertEntries f entries) = Repeats entries := by
  have spelled (i : Nat) (s : String) :
      (∃ c, (convertEntries f entries)[i]? = some (s, c)) ↔ ∃ c, entries[i]? = some (s, c) := by
    simp only [convertEntries, List.getElem?_map, Option.map_eq_some_iff]
    constructor
    · rintro ⟨_, ⟨⟨_, c⟩, found, same⟩⟩
      cases same
      exact ⟨c, found⟩
    · rintro ⟨c, found⟩
      exact ⟨f c, _, found, rfl⟩
  ext i
  simp only [Repeats, Set.mem_ofPred_eq, exists_and_right, spelled]

/-- The entries of a list without their categories. -/
theorem convertEntries_unit (entries : List (String × κ)) :
    convertEntries (fun _ => ()) entries = (entries.map Prod.fst).map fun s => (s, ()) := by
  rw [convertEntries, List.map_map]
  rfl

/-- **The first repetition stays the first** in every list that spells alike up to it, and its
spelling is the same there. -/
theorem isLeast_repeats_congr {s : String} {c : κ}
    (same : (others.map Prod.fst).take (i + 1) = (entries.map Prod.fst).take (i + 1))
    (least : IsLeast (Repeats entries) i) (found : entries[i]? = some (s, c)) :
    IsLeast (Repeats others) i ∧ ∃ d, others[i]? = some (s, d) := by
  have bare : (convertEntries (fun _ => ()) others).take (i + 1) =
      (convertEntries (fun _ => ()) entries).take (i + 1) := by
    rw [convertEntries_unit, convertEntries_unit, ← List.map_take, same, List.map_take]
  constructor
  · rw [← repeats_convertEntries fun _ => (), repeats_eq_misfits] at least ⊢
    exact isLeast_misfits_congr bare least
  · have there := getElem?_eq_of_take_eq bare i.lt_succ_self
    rw [convertEntries, convertEntries, List.getElem?_map, List.getElem?_map, found,
      Option.map_some, Option.map_eq_some_iff] at there
    obtain ⟨⟨s', d⟩, found', same'⟩ := there
    cases same'
    exact ⟨d, found'⟩

/-- A list repeats no spelling unless some spelling occurs twice. -/
theorem not_nodup_iff_two_le_count {spellings : List String} :
    ¬ spellings.Nodup ↔ ∃ s, 2 ≤ spellings.count s := by
  rw [List.nodup_iff_count_le_one, not_forall]
  exact exists_congr fun s => Nat.not_le

/-! ## Failing and succeeding -/

variable [Taxonomy κ] {t : Table κ}

/-- Building fails at the first repetition, for the spelling found there. -/
theorem outcome_ofEntries_eq_error_iff {broken : Violation} :
    (ofEntries entries).outcome = .error broken ↔
      ∃ i s c, IsLeast (Repeats entries) i ∧ entries[i]? = some (s, c) ∧
        broken = .listedTwice s := by
  rw [outcome_ofEntries, appends_insert.foldlM_eq_error_iff, ← repeats_eq_misfits]
  simp only [Prod.exists, eq_comm]

/-- A table comes of every list that repeats no spelling. -/
theorem exists_outcome_ofEntries_iff :
    (∃ t, (ofEntries entries).outcome = .ok t) ↔ (entries.map Prod.fst).Nodup := by
  simp only [outcome_ofEntries_eq_ok_iff]
  constructor
  · rintro ⟨t, rfl⟩
    exact t.nodup
  · intro nodup
    exact ⟨⟨entries, nodup⟩, rfl⟩

/-- A failure is what is left when there is no table. -/
theorem exists_broken_iff :
    (∃ broken, (ofEntries entries).outcome = .error broken) ↔
      ∃ s, 2 ≤ (entries.map Prod.fst).count s := by
  rw [← not_nodup_iff_two_le_count, ← exists_outcome_ofEntries_iff]
  cases (ofEntries entries).outcome with
  | ok t => simp
  | error broken => simp

/-- **How a table, built from a list, classifies** the words with a character. -/
structure ClassifiesAsListed (t : Table κ) (entries : List (String × κ)) : Prop where
  listed : ∀ word c, word ≠ "" → (word, c) ∈ entries → (t.classify word).outcome = .ok c
  other : ∀ word, word ≠ "" → word ∉ entries.map Prod.fst →
    (t.classify word).outcome = .ok ident

theorem classifiesAsListed_entries (t : Table κ) : t.ClassifiesAsListed t.entries where
  listed word c hw member := by
    rw [outcome_classify_of_ne t hw, get?_eq_some_iff.2 member, Option.getD_some]
  other word hw unlisted := by
    rw [outcome_classify_of_ne t hw, get?_eq_none_iff.2 unlisted, Option.getD_none]

/-- The order of a list without repetitions does not matter. -/
theorem outcome_ofEntries_of_perm (h : (ofEntries entries).outcome = .ok t)
    {permuted : List (String × κ)} (perm : permuted.Perm entries) :
    ∃ u, (ofEntries permuted).outcome = .ok u ∧ u.SameAnswers t := by
  obtain rfl := outcome_ofEntries_eq_ok_iff.1 h
  obtain ⟨u, entries, same⟩ := exists_sameAnswers_of_perm t perm
  exact ⟨u, outcome_ofEntries_eq_ok_iff.2 entries, same⟩

/-- **Building from a fixed list is exact.** -/
structure BuildsExactly (entries : List (String × κ)) : Prop where
  /-- It fails exactly if some spelling occurs twice. -/
  fails_iff : (∃ broken, (ofEntries entries).outcome = .error broken) ↔
    ∃ s, 2 ≤ (entries.map Prod.fst).count s
  /-- The spelling of the first repetition is the cause. -/
  broken_iff : ∀ broken, (ofEntries entries).outcome = .error broken ↔
    ∃ i s c, IsLeast (Repeats entries) i ∧ entries[i]? = some (s, c) ∧ broken = .listedTwice s
  /-- The message names it, whatever the categories are and whatever follows. -/
  message : ∀ i s c, IsLeast (Repeats entries) i → entries[i]? = some (s, c) →
    ∀ others : List (String × κ),
      (others.map Prod.fst).take (i + 1) = (entries.map Prod.fst).take (i + 1) →
        (ofEntries others).outcome.mapError Violation.message =
          .error ("keyword " ++ quote s ++ " listed twice")
  /-- Otherwise there is a table. -/
  succeeds_iff : (∃ t, (ofEntries entries).outcome = .ok t) ↔ (entries.map Prod.fst).Nodup
  /-- It answers as the list, -/
  shows : ∀ t, (ofEntries entries).outcome = .ok t → t.Shows entries
  /-- it lists the spellings of the list, -/
  contains : ∀ t, (ofEntries entries).outcome = .ok t →
    ∀ s, t.contains s = true ↔ ∃ c, (s, c) ∈ entries
  /-- and it classifies by them. -/
  classifies : ∀ t, (ofEntries entries).outcome = .ok t → t.ClassifiesAsListed entries
  /-- The order of the list does not matter. -/
  permuted : ∀ t, (ofEntries entries).outcome = .ok t → ∀ permuted, permuted.Perm entries →
    ∃ u, (ofEntries permuted).outcome = .ok u ∧ u.SameAnswers t

/-- Whatever the entries of a fixed list are, building from it is exact. -/
theorem building_is_exact (entries : List (String × κ)) : BuildsExactly entries where
  fails_iff := exists_broken_iff
  broken_iff _ := outcome_ofEntries_eq_error_iff
  message := by
    intro i s c least found others same
    obtain ⟨least', d, found'⟩ := isLeast_repeats_congr same least found
    rw [outcome_ofEntries_eq_error_iff.2 ⟨i, s, d, least', found', rfl⟩]
    rfl
  succeeds_iff := exists_outcome_ofEntries_iff
  shows t built := by
    rw [← outcome_ofEntries_eq_ok_iff.1 built]
    exact shows_of_perm (.refl _)
  contains t built s := by
    rw [← outcome_ofEntries_eq_ok_iff.1 built]
    exact contains_iff
  classifies t built := by
    rw [← outcome_ofEntries_eq_ok_iff.1 built]
    exact t.classifiesAsListed_entries
  permuted _ built _ := outcome_ofEntries_of_perm built

/-- The empty spelling is repeated, under another category, before "let" is; a list of two spellings
is built in either order. -/
theorem building_with_empty_spelling :
    (ofEntries
          [("", Baseline.ident), ("let", .plus), ("", .eof), ("let", .letKeyword)]).outcome.mapError
        Violation.message = .error ("keyword " ++ quote "" ++ " listed twice") ∧
      ∃ t : Table Extended, (ofEntries [("", .string), ("x", .plus)]).outcome = .ok t ∧
        ∃ u, (ofEntries [("x", .plus), ("", .string)]).outcome = .ok u ∧ u.SameAnswers t := by
  have first : IsLeast
      (Repeats [("", Baseline.ident), ("let", .plus), ("", .eof), ("let", .letKeyword)]) 2 := by
    refine ⟨⟨"", .eof, rfl, 0, by decide, .ident, rfl⟩, ?_⟩
    rintro (_ | _ | _) ⟨s, c, found, j, before, d, earlier⟩
    · cases before
    · obtain rfl : j = 0 := by omega
      cases found
      simp at earlier
    · omega
  have built : (ofEntries [("", Extended.string), ("x", .plus)]).outcome =
      .ok ⟨[("", .string), ("x", .plus)], by decide⟩ := rfl
  refine ⟨?_, _, built, ?_⟩
  · exact (building_is_exact _).message 2 "" .eof first rfl _ rfl
  · exact (building_is_exact _).permuted _ built _ (.swap _ _ _)

end Lexicon.Keyword.Table
