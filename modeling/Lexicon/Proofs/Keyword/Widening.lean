import Lexicon.Proofs.Keyword.Classification
import Lexicon.Widening

/-!
# Keyword tables in the two versions

Building a table and asking it commute with widening.  Widening a category changes neither its
label nor its spelling and takes identifiers to identifiers; nothing else of a category is looked at
by a builder or a table.  So one insertion commutes with widening, whether it succeeds or fails, and
with it every run of insertions (`foldlM_convert`), whose failures are therefore the same to the
letter.

The reserved words of the extended version are those of the baseline, widened (`shared_widen`).
Hence the two versions classify alike.
-/

namespace Lexicon

open Taxonomy Keyword

namespace Keyword.Table

/-! ## Converting categories -/

section Convert

variable {κ ι ε : Type} (f : κ → ι)

/-- The entries with their categories converted. -/
def convertEntries (entries : List (String × κ)) : List (String × ι) :=
  entries.map (Prod.map id f)

theorem map_fst_convertEntries (entries : List (String × κ)) :
    (convertEntries f entries).map Prod.fst = entries.map Prod.fst := by
  rw [convertEntries, List.map_map]
  rfl

/-- The table with its categories converted. -/
def convert (t : Table κ) : Table ι :=
  ⟨convertEntries f t.entries, by rw [map_fst_convertEntries]; exact t.nodup⟩

theorem entries_convert (t : Table κ) : (t.convert f).entries = convertEntries f t.entries :=
  rfl

/-- The converted table lists a word under the converted category. -/
theorem get?_convert (t : Table κ) (word : String) :
    (t.convert f).get? word = (t.get? word).map f := by
  ext c
  rw [get?_eq_some_iff, Option.map_eq_some_iff, entries_convert, convertEntries, List.mem_map]
  constructor
  · rintro ⟨⟨s, d⟩, listed, same⟩
    cases same
    exact ⟨d, get?_eq_some_iff.2 listed, rfl⟩
  · rintro ⟨d, found, rfl⟩
    exact ⟨_, get?_eq_some_iff.1 found, rfl⟩

theorem contains_convert (t : Table κ) (word : String) :
    (t.convert f).contains word = t.contains word := by
  rw [contains, get?_convert, Option.isSome_map, contains]

theorem size_convert (t : Table κ) : (t.convert f).size = t.size :=
  List.length_map _

theorem isNew_convert {earlier : List (String × κ)} {entry : String × κ} :
    IsNew (convertEntries f earlier) (Prod.map id f entry) ↔ IsNew earlier entry := by
  rw [IsNew, map_fst_convertEntries]
  rfl

/-- **One insertion commutes with the conversion**: whether a spelling is new does not depend on
categories. -/
theorem insertNew?_convert (t : Table κ) (entry : String × κ) :
    (t.convert f).insertNew? (Prod.map id f entry) = (t.insertNew? entry).map (convert f) := by
  by_cases new : IsNew t.entries entry
  · obtain ⟨u, added, entries⟩ := exists_insertNew? new
    obtain ⟨v, added', entries'⟩ := exists_insertNew? (t := t.convert f) ((isNew_convert f).2 new)
    have same : v.entries = (u.convert f).entries :=
      calc v.entries = convertEntries f t.entries ++ [Prod.map id f entry] := entries'
        _ = convertEntries f (t.entries ++ [entry]) := by
            rw [convertEntries, convertEntries, List.map_append, List.map_singleton]
        _ = (u.convert f).entries := by rw [entries_convert, entries]
    rw [added, added', eq_of_entries same, Option.map_some]
  · have listed : ¬ IsNew (t.convert f).entries (Prod.map id f entry) :=
      fun new' => new ((isNew_convert f).1 new')
    rw [insertNew?_of_not_isNew new, insertNew?_of_not_isNew listed, Option.map_none]

theorem insert_convert (t : Table κ) (entry : String × κ) :
    (t.convert f).insert (Prod.map id f entry) = (t.insert entry).map (convert f) := by
  rw [insert, insertNew?_convert, insert]
  cases t.insertNew? entry with
  | none => rfl
  | some u => rfl

/-- **A run of building commutes with the conversion** if each of its steps does. -/
theorem foldlM_convert {step : Table κ → String × κ → Except ε (Table κ)}
    {step' : Table ι → String × ι → Except ε (Table ι)}
    (commutes : ∀ t entry,
      step' (t.convert f) (Prod.map id f entry) = (step t entry).map (convert f))
    (t : Table κ) (entries : List (String × κ)) :
    (convertEntries f entries).foldlM step' (t.convert f) =
      (entries.foldlM step t).map (convert f) := by
  induction entries generalizing t with
  | nil => rfl
  | cons entry rest ih =>
      rw [convertEntries, List.map_cons, List.foldlM_cons, List.foldlM_cons, commutes]
      cases step t entry with
      | ok u => exact ih u
      | error e => rfl

end Convert

/-! ## The two versions -/

theorem checkEntry_widen (entry : String × Baseline) :
    checkEntry (Prod.map id Baseline.widen entry) = checkEntry entry := by
  rw [checkEntry, checkEntry]
  simp only [Prod.map_fst, Prod.map_snd, id_eq, Baseline.spelling?_widen, Baseline.label_widen]

theorem insertChecked_widen (t : Table Baseline) (entry : String × Baseline) :
    (t.convert Baseline.widen).insertChecked (Prod.map id Baseline.widen entry) =
      (t.insertChecked entry).map (convert Baseline.widen) := by
  rw [insertChecked, checkEntry_widen, insertNew?_convert, insertChecked]
  cases checkEntry entry with
  | error e => rfl
  | ok passed =>
      cases t.insertNew? entry with
      | none => rfl
      | some u => rfl

/-- Checking commutes with widening, refusals included. -/
theorem checked_widen (entries : List (String × Baseline)) :
    checked (convertEntries Baseline.widen entries) =
      (checked entries).map (convert Baseline.widen) :=
  foldlM_convert Baseline.widen insertChecked_widen empty entries

/-- So does building from a fixed list. -/
theorem outcome_ofEntries_widen (entries : List (String × Baseline)) :
    (ofEntries (convertEntries Baseline.widen entries)).outcome =
      (ofEntries entries).outcome.map (convert Baseline.widen) := by
  rw [outcome_ofEntries, outcome_ofEntries]
  exact foldlM_convert Baseline.widen (insert_convert Baseline.widen) empty entries

/-- The extended version reserves the words of the baseline, for the widened categories. -/
theorem shared_widen : shared Extended = (shared Baseline).convert Baseline.widen :=
  eq_of_entries rfl

/-- **The extended table `u` answers as the baseline table `t`**, up to widening. -/
structure WidensTo (t : Table Baseline) (u : Table Extended) : Prop where
  get : ∀ word, u.get? word = (t.get? word).map Baseline.widen
  contains : ∀ word, u.contains word = t.contains word
  size : u.size = t.size
  classify : ∀ word, word ≠ "" → ∃ c : Baseline,
    (t.classify word).outcome = .ok c ∧ (u.classify word).outcome = .ok c.widen

theorem widensTo_convert (t : Table Baseline) : WidensTo t (t.convert Baseline.widen) where
  get := get?_convert Baseline.widen t
  contains := contains_convert Baseline.widen t
  size := size_convert Baseline.widen t
  classify word hw := by
    refine ⟨(t.get? word).getD ident, outcome_classify_of_ne t hw, ?_⟩
    rw [outcome_classify_of_ne _ hw, get?_convert]
    exact congrArg Except.ok (Option.getD_map Baseline.widen ident _)

/-- **Two builds have the same outcome**: a table each, which answer alike up to widening, or the
same failure. -/
inductive SameOutcome {ε : Type} :
    Except ε (Table Baseline) → Except ε (Table Extended) → Prop where
  | built {t u} : WidensTo t u → SameOutcome (.ok t) (.ok u)
  | failed (cause : ε) : SameOutcome (.error cause) (.error cause)

theorem sameOutcome_map {ε : Type} (outcome : Except ε (Table Baseline)) :
    SameOutcome outcome (outcome.map (convert Baseline.widen)) := by
  cases outcome with
  | ok t => exact .built (widensTo_convert t)
  | error cause => exact .failed cause

end Keyword.Table

/-- **The two versions classify a word alike**: as `c` and as its widening, by their own functions,
as the token of the word, and as a label. -/
structure ClassifiesAlike (word : String) (c : Baseline) : Prop where
  baseline : (Baseline.classify word).outcome = .ok c
  extended : (Extended.classify word).outcome = .ok c.widen
  baseline_token : (Token.ofWord word : Traced Violation (Token Baseline)).outcome =
    .ok ⟨c, word⟩
  extended_token : (Token.ofWord word : Traced Violation (Token Extended)).outcome =
    .ok (Token.widen ⟨c, word⟩)
  baseline_label : (Version.baseline.classifyLabel word).outcome = .ok (label c)
  extended_label : (Version.extended.classifyLabel word).outcome = .ok (label c)

theorem classifiesAlike_of_ne {word : String} (hw : word ≠ "") :
    ∃ c, ClassifiesAlike word c := by
  obtain ⟨c, narrow, wide⟩ := (Table.widensTo_convert (Table.shared Baseline)).classify word hw
  rw [← Table.shared_widen] at wide
  have narrow' : (Lexicon.classify Baseline word).outcome = .ok c := narrow
  have wide' : (Lexicon.classify Extended word).outcome = .ok c.widen := wide
  have asBaseline := allAnswer_baseline word
  have asExtended := allAnswer_extended word
  rw [narrow'] at asBaseline
  rw [wide'] at asExtended
  exact ⟨c, asBaseline.byName, asExtended.byName, asBaseline.byToken, asExtended.byToken,
    asBaseline.byVersion, c.label_widen ▸ asExtended.byVersion⟩

/-- **Building and classifying commute with widening.** -/
structure CommutesWithWidening : Prop where
  checked : ∀ entries, Table.SameOutcome (Table.checked entries)
    (Table.checked (Table.convertEntries Baseline.widen entries))
  ofEntries : ∀ entries, Table.SameOutcome (Table.ofEntries entries).outcome
    (Table.ofEntries (Table.convertEntries Baseline.widen entries)).outcome
  shared : Table.WidensTo (Table.shared Baseline) (Table.shared Extended)
  words : ∀ word, word ≠ "" → ∃ c, ClassifiesAlike word c

/-- Building keyword tables and classifying words commute with widening. -/
theorem keywords_commute_with_widening : CommutesWithWidening where
  checked entries := by
    rw [Table.checked_widen]
    exact Table.sameOutcome_map _
  ofEntries entries := by
    rw [Table.outcome_ofEntries_widen]
    exact Table.sameOutcome_map _
  shared := by
    rw [Table.shared_widen]
    exact Table.widensTo_convert _
  words _ hw := classifiesAlike_of_ne hw

/-- The versions classify a reserved word and another one alike. -/
theorem fn_and_x_classified_alike :
    ("fn" ≠ "" ∧ ∃ c, ClassifiesAlike "fn" c) ∧ "x" ≠ "" ∧ ∃ c, ClassifiesAlike "x" c :=
  ⟨⟨by decide, keywords_commute_with_widening.words "fn" (by decide)⟩,
    by decide, keywords_commute_with_widening.words "x" (by decide)⟩

end Lexicon
