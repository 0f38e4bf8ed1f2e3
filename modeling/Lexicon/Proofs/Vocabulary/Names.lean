import Lexicon.Taxonomy
import Mathlib.Data.List.Nodup
import Mathlib.Data.List.Pairwise

/-!
# A category is known by its names

A category has a label, a name for JSON text and a title for diagnostics, and a keyword has a
spelling besides.  That none of them is declared twice is a law of every taxonomy, stated over the
list of its categories.  Since that list has all categories, each of the four tells its category.
-/

namespace Lexicon.Taxonomy

variable {κ : Type} [Taxonomy κ] {c d : κ}

theorem label_injective (h : label c = label d) : c = d :=
  List.inj_on_of_nodup_map nodup_labels (mem_all c) (mem_all d) h

theorem name_injective (h : name c = name d) : c = d :=
  List.inj_on_of_nodup_map nodup_names (mem_all c) (mem_all d) h

theorem title_injective (h : title c = title d) : c = d :=
  List.inj_on_of_nodup_map nodup_titles (mem_all c) (mem_all d) h

/-- What is required of the spellings of two categories, if both have one. -/
def SpeltApart (c d : κ) : Prop :=
  ∀ s, spelling? c = some s → ∀ t, spelling? d = some t → s ≠ t

instance : Std.Symm (SpeltApart : κ → κ → Prop) where
  symm _ _ apart s hs t ht := (apart t ht s hs).symm

/-- A reserved word has one category. -/
theorem eq_of_spelling {s : String} (hc : spelling? c = some s) (hd : spelling? d = some s) :
    c = d := by
  have pairs : (all : List κ).Pairwise SpeltApart := List.pairwise_filterMap.1 nodup_spellings
  by_contra differ
  exact pairs.forall (mem_all c) (mem_all d) differ s hc s hd rfl

/-- Looking a name up finds the category that has it. -/
theorem lookup_named_eq_some_iff {n : String} :
    (named κ).lookup n = some c ↔ name c = n := by
  have nodup : ((named κ).map Prod.fst).Nodup := by
    rw [named, List.map_map]
    exact nodup_names
  rw [lookup_eq_some_iff nodup, named, List.mem_map]
  constructor
  · rintro ⟨d, -, same⟩
    cases same
    rfl
  · rintro rfl
    exact ⟨c, mem_all c, rfl⟩

end Lexicon.Taxonomy
