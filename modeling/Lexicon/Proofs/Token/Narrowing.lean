import Lexicon.Proofs.Json.Restriction
import Lexicon.Proofs.Token.Format
import Mathlib.Data.Set.List

/-!
# Reading in the two vocabularies

The extended vocabulary reads whatever the baseline reads, as the widened value; what it reads
beyond that, the baseline refuses for its shape (`reading_is_simulation`).

The two readers of categories differ only in the names they know.  A name of both stands for a
category and its widening, because a category keeps its name (`Baseline.name_widen`).  From there
the relation is carried through the readers of tokens and of lists of tokens.
-/

namespace Lexicon

open Taxonomy Json

/-- A category that the baseline has. -/
def Extended.Narrows (c : Extended) : Prop := ∃ b, c.narrow = .ok b

theorem Extended.narrows_iff {c : Extended} : c.Narrows ↔ ∃ b, Baseline.widen b = c := by
  simp only [Narrows, narrow_eq_ok_iff]

/-! ## Categories -/

theorem denotes_widen {v : List Char} {b : Baseline} : Denotes v b.widen ↔ Denotes v b := by
  rw [Denotes, Denotes, Baseline.name_widen]

namespace Token

theorem restricts_categoryReader :
    (categoryReader Baseline).Restricts Baseline.widen (categoryReader Extended) := by
  apply restricts_choice
  intro n b e known known'
  rw [lookup_named_eq_some_iff] at known known'
  apply name_injective
  rw [Baseline.name_widen, known, known']

/-! ## Tokens -/

theorem elementsMake_widen {elements : List (List Char)} {t : Token Baseline} :
    ElementsMake elements t.widen ↔ ElementsMake elements t := by
  simp only [ElementsMake, widen, denotes_widen]

theorem membersMake_widen {members : List (String × List Char)} {t : Token Baseline} :
    MembersMake members t.widen ↔ MembersMake members t := by
  constructor
  · rintro ⟨⟨v, once, denotes⟩, lexeme, others⟩
    exact ⟨⟨v, once, denotes_widen.1 denotes⟩, lexeme, others⟩
  · rintro ⟨⟨v, once, denotes⟩, lexeme, others⟩
    exact ⟨⟨v, once, denotes_widen.2 denotes⟩, lexeme, others⟩

theorem isRecord_widen {v : List Char} {t : Token Baseline} :
    IsRecord ElementsMake MembersMake v t.widen ↔ IsRecord ElementsMake MembersMake v t := by
  simp only [IsRecord, elementsMake_widen, membersMake_widen]

theorem isList_widen {v : List Char} {ts : List (Token Baseline)} :
    IsList (IsRecord ElementsMake MembersMake) v (ts.map widen) ↔
      IsList (IsRecord ElementsMake MembersMake) v ts := by
  simp only [IsList, List.forall₂_map_right_iff, isRecord_widen]

theorem restricts_ofArray :
    (ofArray : Content (Token Baseline)).Restricts widen (ofArray : Content (Token Extended)) := by
  intro s
  unfold ofArray
  dsimp only
  refine restricts_andThen (fun c r _ => ?_)
    (restricts_categoryReader.field recordName 2 0 s)
  -- The lexeme is read by the same reader.
  cases field recordName 2 1 string r with
  | error e => exact restricts_error
  | ok taken => exact restricts_ok (f := widen) ⟨c, taken.1⟩ taken.2

/-- The draft with the extended counterpart of its category. -/
def Draft.widen (draft : Draft Baseline) : Draft Extended :=
  ⟨draft.category.map Baseline.widen, draft.lexeme⟩

theorem Draft.restricts_visit :
    Visitor.Restricts Draft.widen (Draft.visit : Visitor (Draft Baseline))
      (Draft.visit : Visitor (Draft Extended)) := by
  intro draft key reader' accepted
  obtain ⟨category, lexeme⟩ := draft
  unfold Draft.visit at accepted ⊢
  split at accepted
  · next isCategory =>
    cases category with
    | some c => cases accepted
    | none =>
        cases accepted
        rw [if_pos isCategory]
        exact ⟨_, rfl, restricts_categoryReader.map fun c => rfl⟩
  · next notCategory =>
    split at accepted
    · next isLexeme =>
      cases lexeme with
      | some s => cases accepted
      | none =>
          cases accepted
          rw [if_neg notCategory, if_pos isLexeme]
          exact ⟨_, rfl, string.restricts_self.map fun s => rfl⟩
    · next notLexeme =>
      cases accepted
      rw [if_neg notCategory, if_neg notLexeme]
      exact ⟨_, rfl, skipped.restricts_self.map fun _ => rfl⟩

/-- A widened draft has both fields only if the draft has. -/
theorem Draft.widen_eq_iff {draft : Draft Baseline} {c : Extended} {lexeme : String} :
    draft.widen = ⟨some c, some lexeme⟩ ↔ ∃ b, draft = ⟨some b, some lexeme⟩ ∧ b.widen = c := by
  obtain ⟨category, s⟩ := draft
  simp only [Draft.widen, Draft.mk.injEq, Option.map_eq_some_iff]
  constructor
  · rintro ⟨⟨b, rfl, same⟩, rfl⟩
    exact ⟨b, ⟨rfl, rfl⟩, same⟩
  · rintro ⟨b, ⟨rfl, rfl⟩, same⟩
    exact ⟨⟨b, rfl, same⟩, rfl⟩

theorem restricts_ofObject :
    (ofObject : Content (Token Baseline)).Restricts widen
      (ofObject : Content (Token Extended)) := by
  intro s t r read
  have gathered := ofObject_read_eq_ok_iff.1 read
  obtain ⟨draft, same, widened⟩ | ⟨e, refused, shape⟩ :=
    Draft.restricts_visit.members true ⟨none, none⟩ s _ r gathered
  · obtain ⟨b, rfl, category⟩ := Draft.widen_eq_iff.1 widened
    refine .inl ⟨⟨b, t.lexeme⟩, ofObject_read_eq_ok_iff.2 same, ?_⟩
    rw [widen, category]
  · refine .inr ⟨e, ?_, shape⟩
    rw [ofObject]
    simp only [refused]

theorem restricts_reader :
    (reader : Reader (Token Baseline)).Restricts widen (reader : Reader (Token Extended)) :=
  restricts_record restricts_ofArray restricts_ofObject recordName

theorem narrows_category_iff {t : Token Extended} :
    t.category.Narrows ↔ ∃ b : Token Baseline, b.widen = t := by
  obtain ⟨c, lexeme⟩ := t
  rw [Extended.narrows_iff]
  constructor
  · rintro ⟨b, rfl⟩
    exact ⟨⟨b, lexeme⟩, rfl⟩
  · rintro ⟨b, same⟩
    cases same
    exact ⟨b.category, rfl⟩

theorem narrows_categories_iff {ts : List (Token Extended)} :
    (∀ t ∈ ts, t.category.Narrows) ↔ ∃ bs : List (Token Baseline), bs.map widen = ts := by
  have range := Set.ext_iff.1 (Set.range_list_map (widen : Token Baseline → Token Extended)) ts
  simp only [narrows_category_iff]
  exact range.symm

/-- **Reading JSON text in the two vocabularies is a simulation**, of categories, of tokens and of
lists of tokens. -/
theorem reading_is_simulation :
    Simulation (categoryReader Baseline) (categoryReader Extended) Baseline.widen
        Extended.Narrows ∧
      Simulation (reader : Reader (Token Baseline)) (reader : Reader (Token Extended)) widen
        (fun t => t.category.Narrows) ∧
      Simulation (list (reader : Reader (Token Baseline))) (list (reader : Reader (Token Extended)))
        (List.map widen) (fun ts => ∀ t ∈ ts, t.category.Narrows) := by
  refine ⟨?categories, ?tokens, ?lists⟩
  case categories =>
    exact simulation_of_recognises recognises_categoryReader recognises_categoryReader
      denotes_widen restricts_categoryReader Extended.narrows_iff
  case tokens =>
    exact simulation_of_recognises recognises_reader recognises_reader isRecord_widen
      restricts_reader narrows_category_iff
  case lists =>
    exact simulation_of_recognises recognises_reader.list recognises_reader.list isList_widen
      restricts_reader.list narrows_categories_iff

end Token

end Lexicon
