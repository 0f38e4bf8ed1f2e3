import Lexicon.Keyword.Classify
import Lexicon.Proofs.Keyword.SideBySide
import Lexicon.Proofs.Text.ByteOrder

/-!
# Rebuilding a table from its entries

A table promises its entries in no order, yet a list of them is checked entry by entry.  Whether the
check accepts the list, and what the rebuilt table answers, is the same for every order; only the
cause of a refusal tells the order, for it is that of the foreign entry which comes first.

The entries of a table repeat no spelling.  So in any order a run without a check builds a table of
them (`exists_sameAnswers_of_perm`), and beside it the checking run can neither be stopped by a
repetition nor end in another table (`SideBySide.ne_repeatedKeyword`, `SideBySide.fixed_of_ok`).

Sorted by the bytes of their spellings, the entries come in one order, and there the foreign entry
with the smallest spelling is the first.

## Main definitions

* `RebuildsIn` — what checking the entries of a table in some order comes to.
* `SortsTo` — the sorted spellings of a table.
* `RebuildingIgnoresOrder` — the order of the entries does not matter.
-/

namespace Lexicon.Keyword.Table

open Taxonomy
open Text (Precedes Precedes.asymm ascending_mergeSort eq_mergeSort_of_perm)

variable {κ : Type} {t : Table κ} {order : List (String × κ)}

/-! ## Sorted entries -/

/-- The sorted entries are the entries. -/
theorem perm_sortedEntries (t : Table κ) : t.sortedEntries.Perm t.entries :=
  List.mergeSort_perm _ _

/-- Their spellings are the sorted spellings. -/
theorem map_fst_sortedEntries (t : Table κ) :
    t.sortedEntries.map Prod.fst = (t.entries.map Prod.fst).mergeSort :=
  List.map_mergeSort fun _ _ _ _ => rfl

/-- Sorted entries ascend by the bytes of their spellings. -/
theorem ascending_sortedEntries (t : Table κ) :
    t.sortedEntries.Pairwise fun a b => Precedes a.1 b.1 := by
  rw [← List.pairwise_map (f := Prod.fst) (R := Precedes), map_fst_sortedEntries]
  exact ascending_mergeSort t.nodup

/-- **The sorted spellings of a table**, which are the same whatever order its entries come in and
however they are sorted. -/
structure SortsTo (t : Table κ) (spellings : List String) : Prop where
  ascending : spellings.Pairwise Precedes
  mem_iff : ∀ s, s ∈ spellings ↔ t.contains s = true
  mergeSort : ∀ order : List (String × κ), order.Perm t.entries →
    (order.map Prod.fst).mergeSort = spellings
  any_sort : ∀ order : List (String × κ), order.Perm t.entries →
    ∀ sorted, sorted.Perm (order.map Prod.fst) →
      sorted.Pairwise (fun a b => ¬ Precedes b a) → sorted = spellings

/-- The spellings of a table are those that it contains. -/
theorem mem_map_fst_iff {s : String} : s ∈ t.entries.map Prod.fst ↔ t.contains s = true := by
  rw [contains_iff, List.mem_map]
  constructor
  · rintro ⟨⟨_, c⟩, listed, rfl⟩
    exact ⟨c, listed⟩
  · rintro ⟨c, listed⟩
    exact ⟨_, listed, rfl⟩

theorem sortsTo_mergeSort (t : Table κ) : t.SortsTo (t.entries.map Prod.fst).mergeSort where
  ascending := ascending_mergeSort t.nodup
  mem_iff _ := List.mem_mergeSort.trans mem_map_fst_iff
  mergeSort order perm := by
    have spellings : (order.map Prod.fst).Perm (t.entries.map Prod.fst) := perm.map Prod.fst
    have ascending := ascending_mergeSort (spellings.nodup_iff.2 t.nodup)
    exact eq_mergeSort_of_perm ((List.mergeSort_perm _ _).trans spellings)
      (ascending.imp Precedes.asymm)
  any_sort order perm sorted same ascending :=
    eq_mergeSort_of_perm (same.trans (perm.map Prod.fst)) ascending

/-! ## Rebuilding -/

variable [Taxonomy κ] {e : VocabularyError}

/-- In a list whose spellings ascend, the first foreign entry has the smallest spelling among them
all. -/
theorem FirstForeign.least (h : FirstForeign order e)
    (ascending : order.Pairwise fun a b => Precedes a.1 b.1) :
    ∃ entry ∈ order, Foreign entry e ∧
      ∀ other ∈ order, spelling? other.2 ≠ some other.1 →
        other = entry ∨ Precedes entry.1 other.1 := by
  obtain ⟨before, entry, after, rfl, own, foreign⟩ := h
  refine ⟨entry, by simp, foreign, fun other listed notOwn => ?_⟩
  -- No foreign entry stands before the first one, and what stands behind it is larger.
  rcases List.mem_append.1 listed with earlier | here
  · exact absurd (own other earlier) notOwn
  · rcases List.mem_cons.1 here with rfl | later
    · exact .inl rfl
    · have behind := (List.pairwise_append.1 ascending).2.1
      exact .inr ((List.pairwise_cons.1 behind).1 other later)

/-- **What checking the entries of a table, in the order `order`, comes to.** -/
structure RebuildsIn (t : Table κ) (order : List (String × κ)) : Prop where
  /-- It succeeds exactly if the table pairs keywords with their own spellings only. -/
  accepted_iff : (∃ u, checked order = .ok u) ↔ ∀ s c, (s, c) ∈ t.entries → spelling? c = some s
  /-- The rebuilt table answers as the table did. -/
  answers : ∀ u, checked order = .ok u → u.SameAnswers t
  /-- No entry is refused as a repetition. -/
  not_repeated : ∀ s, checked order ≠ .error (.repeatedKeyword s)
  /-- The first foreign entry in this order gives the cause of a refusal. -/
  refused : ∀ e, checked order = .error e → FirstForeign order e

/-- **In any order** the entries of a table are rebuilt alike. -/
theorem rebuildsIn_of_perm (perm : order.Perm t.entries) : t.RebuildsIn order := by
  -- In this order too they are the entries of a table, and a run without a check builds it.
  obtain ⟨u, rfl, same⟩ := exists_sameAnswers_of_perm t perm
  have built : (ofEntries u.entries).outcome = .ok u := outcome_ofEntries_eq_ok_iff.2 rfl
  have run := sideBySide u.entries
  refine ⟨?accepted_iff, ?answers, run.ne_repeatedKeyword built,
    fun e => run.firstForeign_of_error built⟩
  case accepted_iff =>
    rw [run.exists_ok_iff built, Prod.forall]
    simp only [same.entries.mem_iff]
  case answers =>
    intro v accepted
    have fixed := run.fixed_of_ok accepted
    rw [built] at fixed
    cases fixed
    exact same

/-- A table of keywords under their own spellings is rebuilt from its entries in any order. -/
theorem exists_checked_of_own (own : ∀ entry ∈ t.entries, spelling? entry.2 = some entry.1)
    (perm : order.Perm t.entries) : ∃ u, checked order = .ok u ∧ u.SameAnswers t := by
  have rebuilds := rebuildsIn_of_perm perm
  obtain ⟨u, accepted⟩ := rebuilds.accepted_iff.2 fun s c listed => own (s, c) listed
  exact ⟨u, accepted, rebuilds.answers u accepted⟩

/-- **Rebuilding ignores the order of the entries**, in a vocabulary with the sorted reserved words
`keywords`. -/
structure RebuildingIgnoresOrder (κ : Type) [Taxonomy κ] (keywords : List String) : Prop where
  /-- The tables are those built from fixed lists. -/
  built : ∀ t : Table κ, (ofEntries t.entries).outcome = .ok t
  /-- Each of them is rebuilt alike from its entries, in any order. -/
  any_order : ∀ (t : Table κ) (order : List (String × κ)), order.Perm t.entries →
    t.RebuildsIn order
  /-- If it is one of a checked list, it is always rebuilt, -/
  of_checked : ∀ (entries : List (String × κ)) t, checked entries = .ok t →
    ∀ order : List (String × κ), order.Perm t.entries →
      ∃ u, checked order = .ok u ∧ u.SameAnswers t
  /-- and so is the shared one. -/
  of_shared : ∀ order : List (String × κ), order.Perm (shared κ).entries →
    ∃ u, checked order = .ok u ∧ u.SameAnswers (shared κ)
  /-- The sorted entries ascend by the bytes of their spellings. -/
  sorted : ∀ t : Table κ, t.sortedEntries.Perm t.entries ∧
    t.sortedEntries.Pairwise fun a b => Precedes a.1 b.1
  /-- In that order the foreign entry with the smallest spelling gives the cause. -/
  smallest : ∀ (t : Table κ) e, checked t.sortedEntries = .error e →
    ∃ entry ∈ t.entries, Foreign entry e ∧
      ∀ other ∈ t.entries, spelling? other.2 ≠ some other.1 →
        other = entry ∨ Precedes entry.1 other.1
  /-- The spellings of a table have one sorted order, -/
  spellings : ∀ t : Table κ, ∃ spellings, t.SortsTo spellings
  /-- and those of the shared one are the sorted reserved words. -/
  keywords : (shared κ).SortsTo keywords

variable (κ) in
/-- Every vocabulary ignores the order of entries. -/
theorem rebuildingIgnoresOrder : RebuildingIgnoresOrder κ (Version.keywords.sorted κ) where
  built _ := outcome_ofEntries_eq_ok_iff.2 rfl
  any_order _ _ := rebuildsIn_of_perm
  of_checked entries t accepted order perm := by
    obtain ⟨own, rfl⟩ := checked_eq_ok_iff.1 accepted
    exact exists_checked_of_own own perm
  of_shared order perm :=
    exists_checked_of_own (fun _ listed => mem_reserved_iff.1 listed) perm
  sorted t := ⟨t.perm_sortedEntries, t.ascending_sortedEntries⟩
  smallest t e refused := by
    have foreign := (rebuildsIn_of_perm t.perm_sortedEntries).refused e refused
    have least := foreign.least t.ascending_sortedEntries
    simpa only [t.perm_sortedEntries.mem_iff] using least
  spellings t := ⟨_, t.sortsTo_mergeSort⟩
  keywords := sortsTo_mergeSort (shared κ)

/-- Rebuilding a table ignores the order of its entries, in both versions. -/
theorem rebuilding_ignores_order :
    RebuildingIgnoresOrder Baseline Version.baseline.keywords ∧
      RebuildingIgnoresOrder Extended Version.extended.keywords :=
  ⟨rebuildingIgnoresOrder Baseline, rebuildingIgnoresOrder Extended⟩

/-- Of a table with two foreign entries, one order is refused for the first, the order by bytes for
the other; a table of two reserved words is rebuilt. -/
theorem rebuilding_with_func_and_plus :
    FirstForeign [("let", Baseline.plus), ("fn", .fnKeyword), ("func", .fnKeyword)]
        (.notKeyword "+") ∧
      (∃ entry ∈ [("fn", Baseline.fnKeyword), ("func", .fnKeyword), ("let", .plus)],
        Foreign entry (.misspelledKeyword "func" "fn") ∧
          ∀ other ∈ [("fn", Baseline.fnKeyword), ("func", .fnKeyword), ("let", .plus)],
            spelling? other.2 ≠ some other.1 → other = entry ∨ Precedes entry.1 other.1) ∧
      ∃ t : Table Extended, checked [("return", .returnKeyword), ("fn", .fnKeyword)] = .ok t ∧
        ∃ u, checked [("fn", .fnKeyword), ("return", .returnKeyword)] = .ok u ∧
          u.SameAnswers t := by
  obtain ⟨t, entries⟩ : ∃ t : Table Baseline,
      t.entries = [("fn", .fnKeyword), ("func", .fnKeyword), ("let", .plus)] :=
    ⟨⟨_, by decide⟩, rfl⟩
  have perm : [("let", Baseline.plus), ("fn", .fnKeyword), ("func", .fnKeyword)].Perm t.entries := by
    rw [entries]
    decide
  have sorted : t.sortedEntries = [("fn", .fnKeyword), ("func", .fnKeyword), ("let", .plus)] := by
    rw [sortedEntries, entries]
    exact List.mergeSort_of_pairwise (by decide)
  have refused : checked t.sortedEntries = .error (.misspelledKeyword "func" "fn") := by
    rw [sorted]
    rfl
  have accepted : checked [("return", Extended.returnKeyword), ("fn", .fnKeyword)] =
      .ok ⟨[("return", .returnKeyword), ("fn", .fnKeyword)], by decide⟩ := rfl
  refine ⟨(rebuilding_ignores_order.1.any_order t _ perm).refused _ rfl, ?_, _, accepted, ?_⟩
  · rw [← entries]
    exact rebuilding_ignores_order.1.smallest t _ refused
  · exact rebuilding_ignores_order.2.of_checked _ _ accepted _ (.swap _ _ _)

end Lexicon.Keyword.Table
