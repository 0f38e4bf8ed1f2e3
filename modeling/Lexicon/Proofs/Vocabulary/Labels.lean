import Lexicon.Proofs.Vocabulary.Names
import Lexicon.Widening

/-!
# Labels name categories

A category is read by its label, by a search through the declared categories that stops at the first
one with the label.  About lists where labels repeat there is no more to say than that
(`findLabelled_eq_ok_iff`, `findLabelled_eq_error_iff`).  In a vocabulary no label is given twice, so
there reading is the inverse of labelling, and a text that is no label is handed back unchanged with
the refusal (`ofLabel_eq_ok_iff`, `ofLabel_eq_error_iff`).

The labels of the two versions agree as far as the baseline goes, for widening keeps the label.  A
label of the extended version alone is therefore unknown to the baseline.

## Main definitions

* `IsEarliest` — the first element of a list that bears a label.
* `ReadsLabels` — reading is the inverse of labelling.
-/

namespace Lexicon

open Taxonomy

/-! ## The search -/

section Search

variable {α : Type} {all : List α} {label : α → String} {wanted : String} {a : α}

/-- **The earliest element** of a list that bears a label. -/
def IsEarliest (all : List α) (label : α → String) (wanted : String) (a : α) : Prop :=
  label a = wanted ∧ ∃ before after, all = before ++ a :: after ∧ ∀ b ∈ before, label b ≠ wanted

/-- The search finds the earliest element that bears the label. -/
theorem findLabelled_eq_ok_iff :
    findLabelled all label wanted = .ok a ↔ IsEarliest all label wanted a := by
  have found : (all.find? fun a => label a == wanted) = some a ↔
      IsEarliest all label wanted a := by
    simp only [List.find?_eq_some_iff_append, IsEarliest, beq_iff_eq, Bool.not_eq_true',
      beq_eq_false_iff_ne]
  rw [← found, findLabelled]
  cases all.find? fun a => label a == wanted with
  | none => simp
  | some b => simp

/-- The search fails if no element bears the label, and names it. -/
theorem findLabelled_eq_error_iff {e : VocabularyError} :
    findLabelled all label wanted = .error e ↔
      (∀ b ∈ all, label b ≠ wanted) ∧ e = .unknownLabel wanted := by
  have missed : (all.find? fun a => label a == wanted) = none ↔ ∀ b ∈ all, label b ≠ wanted := by
    simp only [List.find?_eq_none, beq_iff_eq, ne_eq]
  rw [← missed, findLabelled]
  cases all.find? fun a => label a == wanted with
  | none => simp [eq_comm]
  | some b => simp

/-- **The search is exact**, whatever the list and the labels are. -/
structure SearchesExactly (all : List α) (label : α → String) : Prop where
  found_iff : ∀ wanted a, findLabelled all label wanted = .ok a ↔ IsEarliest all label wanted a
  failed_iff : ∀ wanted e, findLabelled all label wanted = .error e ↔
    (∀ b ∈ all, label b ≠ wanted) ∧ e = .unknownLabel wanted

end Search

/-! ## The labels of a vocabulary -/

namespace Taxonomy

variable {κ : Type} [Taxonomy κ] {l : String} {c : κ}

/-- A category is read by its label, and by no other text. -/
theorem ofLabel_eq_ok_iff : ofLabel l = .ok c ↔ label c = l := by
  constructor
  · intro read
    exact (findLabelled_eq_ok_iff.1 read).1
  · rintro rfl
    cases search : (ofLabel (label c) : Except VocabularyError κ) with
    | ok d => rw [label_injective (findLabelled_eq_ok_iff.1 search).1]
    | error e => exact absurd rfl ((findLabelled_eq_error_iff.1 search).1 c (mem_all c))

/-- A text that is no label is refused and named. -/
theorem ofLabel_eq_error_iff {e : VocabularyError} :
    (ofLabel l : Except VocabularyError κ) = .error e ↔
      (∀ c : κ, label c ≠ l) ∧ e = .unknownLabel l := by
  have everywhere : (∀ c ∈ (all : List κ), label c ≠ l) ↔ ∀ c : κ, label c ≠ l :=
    forall_congr' fun c => imp_iff_right (mem_all c)
  rw [ofLabel, findLabelled_eq_error_iff, everywhere]

variable (κ) in
/-- **Reading is the inverse of labelling.** -/
structure ReadsLabels : Prop where
  read_iff : ∀ l (c : κ), ofLabel l = .ok c ↔ label c = l
  refused_iff : ∀ l e, (ofLabel l : Except VocabularyError κ) = .error e ↔
    (∀ c : κ, label c ≠ l) ∧ e = .unknownLabel l

variable (κ) in
theorem readsLabels : ReadsLabels κ where
  read_iff _ _ := ofLabel_eq_ok_iff
  refused_iff _ _ := ofLabel_eq_error_iff

end Taxonomy

/-! ## The two versions -/

/-- A label of the baseline is one of the extended version, for the widened category. -/
theorem ofLabel_widen {l : String} {b : Baseline} (read : ofLabel l = .ok b) :
    ofLabel l = .ok b.widen := by
  rw [ofLabel_eq_ok_iff] at read ⊢
  rw [b.label_widen, read]

/-- A label of the extended version is one of the baseline if its category narrows. -/
theorem ofLabel_of_narrow {l : String} {e : Extended} {b : Baseline} (read : ofLabel l = .ok e)
    (narrowed : e.narrow = .ok b) : ofLabel l = .ok b := by
  obtain rfl := Extended.narrow_eq_ok_iff.1 narrowed
  rw [ofLabel_eq_ok_iff] at read ⊢
  rw [← b.label_widen, read]

/-- And the baseline does not know it if its category is refused. -/
theorem ofLabel_of_narrow_eq_error {l : String} {e : Extended} {cause : VocabularyError}
    (read : ofLabel l = .ok e) (refused : e.narrow = .error cause) :
    (ofLabel l : Except VocabularyError Baseline) = .error (.unknownLabel l) := by
  refine ofLabel_eq_error_iff.2 ⟨fun b known => ?_, rfl⟩
  -- The widened category bears the same label, so it is the refused one.
  have counterpart : b.widen = e :=
    label_injective (by rw [b.label_widen, known, ofLabel_eq_ok_iff.1 read])
  rw [Extended.narrow_eq_ok_iff.2 counterpart] at refused
  cases refused

/-- **Labels name categories**, in each version and across the two. -/
structure LabelsNameCategories : Prop where
  baseline : ReadsLabels Baseline
  extended : ReadsLabels Extended
  /-- A label of the baseline names the widened category in the extended version. -/
  widened : ∀ l (b : Baseline), ofLabel l = .ok b → ofLabel l = .ok b.widen
  /-- A label of the extended version names the narrowed category in the baseline, -/
  narrowed : ∀ l (e : Extended), ofLabel l = .ok e → ∀ b, e.narrow = .ok b →
    b.widen = e ∧ ofLabel l = .ok b
  /-- unless there is none. -/
  unknown : ∀ l (e : Extended), ofLabel l = .ok e → ∀ cause, e.narrow = .error cause →
    (ofLabel l : Except VocabularyError Baseline) = .error (.unknownLabel l)
  /-- The search behind them all finds the earliest element of any list, under any labels. -/
  search : ∀ {α : Type} (all : List α) (label : α → String), SearchesExactly all label

/-- Reading a category by its label is the exact inverse of labelling it. -/
theorem labels_name_categories : LabelsNameCategories where
  baseline := readsLabels Baseline
  extended := readsLabels Extended
  widened _ _ := ofLabel_widen
  narrowed _ _ read _ narrow := ⟨Extended.narrow_eq_ok_iff.1 narrow, ofLabel_of_narrow read narrow⟩
  unknown _ _ read _ := ofLabel_of_narrow_eq_error read
  search _ _ := ⟨fun _ _ => findLabelled_eq_ok_iff, fun _ _ => findLabelled_eq_error_iff⟩

/-- Both versions know the sign of equality, only the extended one the colon; of two categories with
one label the earlier is found. -/
theorem equality_and_colon_read :
    (ofLabel "==" = .ok Baseline.equal ∧ ofLabel "==" = .ok Extended.equal) ∧
    (ofLabel ":" = .ok Extended.colon ∧
      (ofLabel ":" : Except VocabularyError Baseline) = .error (.unknownLabel ":")) ∧
    findLabelled [Baseline.eof, .int, .plus] (fun c => if c = .eof then "" else "word") "word" =
      .ok .int := by
  have equality : ofLabel "==" = .ok Baseline.equal := rfl
  have colon : ofLabel ":" = .ok Extended.colon := rfl
  have earliest : IsEarliest [Baseline.eof, .int, .plus]
      (fun c => if c = .eof then "" else "word") "word" .int :=
    ⟨by decide, [.eof], [.plus], rfl, by decide⟩
  exact ⟨⟨equality, labels_name_categories.widened _ _ equality⟩,
    ⟨colon, labels_name_categories.unknown _ _ colon _ rfl⟩,
    ((labels_name_categories.search _ _).found_iff _ _).2 earliest⟩

end Lexicon
