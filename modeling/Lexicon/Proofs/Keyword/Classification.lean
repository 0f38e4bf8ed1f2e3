import Lexicon.Proofs.Keyword.Building
import Lexicon.Proofs.Vocabulary.Labels
import Lexicon.Token

/-!
# Classification is by spelling

A word has the category whose spelling it is, and is an identifier if there is none.  That rule is
`categoryOf`, and it mentions no table: it searches the declared categories for the spelling.  The
table through which words are classified is filled by the builder's loop, and five functions reach
it; `ClassifiesBySpelling` says that all of them follow the rule and that the empty word breaks the
same promise at each.

The laws of a vocabulary carry the argument.  No two categories share a spelling, so a search by
spelling and a look-up in the table find the same category (`get?_shared_eq_some_iff`,
`find?_spelling_eq_some_iff`); identifiers have none, so the default is never a find in disguise;
and no two share a label, so a label leads back to its category (`ofLabel_eq_ok_iff`).
-/

namespace Lexicon

open Taxonomy Keyword

namespace Taxonomy

variable {κ : Type} [Taxonomy κ]

/-- A search finds the one category that meets its condition. -/
theorem find?_all_eq_some {p : κ → Bool} {c : κ} (meets : p c = true)
    (unique : ∀ d, p d = true → d = c) : (all : List κ).find? p = some c := by
  cases search : (all : List κ).find? p with
  | none => exact absurd meets (List.find?_eq_none.1 search c (mem_all c))
  | some d => rw [unique d (List.find?_some search)]

/-- A search by spelling finds the category that has it. -/
theorem find?_spelling_eq_some_iff {word : String} {c : κ} :
    ((all : List κ).find? fun c => spelling? c == some word) = some c ↔
      spelling? c = some word := by
  constructor
  · intro h
    simpa using List.find?_some h
  · intro h
    -- Spellings are not shared, so the search cannot stop at another category before.
    refine find?_all_eq_some (by simpa using h) fun d found => ?_
    exact eq_of_spelling (by simpa using found) h

/-- What has a spelling is not the category of identifiers, which have none. -/
theorem ne_ident_of_spelling {c : κ} {spelling : String} (h : spelling? c = some spelling) :
    c ≠ ident := by
  rintro rfl
  rw [spelling?_ident] at h
  cases h

variable (κ) in
/-- **The rule**: the category whose spelling a word is, or that of identifiers. -/
def categoryOf (word : String) : κ :=
  ((all : List κ).find? fun c => spelling? c == some word).getD ident

/-- Apart from identifiers, a word has the category whose spelling it is. -/
theorem categoryOf_eq_iff {word : String} {c : κ} (h : c ≠ ident) :
    categoryOf κ word = c ↔ spelling? c = some word := by
  rw [← find?_spelling_eq_some_iff, categoryOf]
  cases (all : List κ).find? fun c => spelling? c == some word with
  | none => exact ⟨fun same => absurd same.symm h, fun h => by cases h⟩
  | some d => rw [Option.getD_some, Option.some.injEq]

end Taxonomy

/-! ## The shared table -/

namespace Keyword.Table

variable {κ : Type} [Taxonomy κ]

/-- The reserved words are the spellings, each with its category. -/
theorem mem_reserved_iff {word : String} {c : κ} :
    (word, c) ∈ reserved κ ↔ spelling? c = some word := by
  rw [reserved, List.mem_filterMap]
  constructor
  · rintro ⟨d, -, h⟩
    obtain ⟨s, spelled, same⟩ := Option.map_eq_some_iff.1 h
    cases same
    exact spelled
  · intro h
    exact ⟨c, mem_all c, by rw [h]; rfl⟩

/-- The shared table lists a word under the category whose spelling it is. -/
theorem get?_shared_eq_some_iff {word : String} {c : κ} :
    (shared κ).get? word = some c ↔ spelling? c = some word :=
  get?_eq_some_iff.trans mem_reserved_iff

/-- Looking a word up in the shared table is searching for its spelling. -/
theorem get?_shared (word : String) :
    (shared κ).get? word = (all : List κ).find? fun c => spelling? c == some word := by
  ext c
  rw [get?_shared_eq_some_iff, find?_spelling_eq_some_iff]

/-- A reserved word is the spelling of a category. -/
theorem contains_shared_iff {word : String} :
    (shared κ).contains word = true ↔ ∃ c : κ, spelling? c = some word := by
  rw [contains, Option.isSome_iff_exists]
  exact exists_congr fun c => get?_shared_eq_some_iff

/-- The rule makes an identifier of a word unless it is reserved. -/
theorem categoryOf_eq_ident_iff {word : String} :
    categoryOf κ word = ident ↔ (shared κ).contains word = false := by
  rw [categoryOf, ← get?_shared, contains]
  cases found : (shared κ).get? word with
  | none => simp
  | some c =>
      simpa using ne_ident_of_spelling (get?_shared_eq_some_iff.1 found)

/-- The rule makes a word an identifier or a keyword. -/
theorem ident_or_isKeyword_categoryOf (word : String) :
    categoryOf κ word = ident ∨ isKeyword (categoryOf κ word) = true := by
  by_cases same : categoryOf κ word = ident
  · exact .inl same
  · have spelled := (categoryOf_eq_iff same).1 rfl
    exact .inr (Option.isSome_iff_exists.2 ⟨word, spelled⟩)

/-- No table classifies the empty word. -/
theorem outcome_classify_empty (t : Table κ) :
    (t.classify "").outcome = .error .emptyLexeme := by
  rw [classify, if_pos rfl]
  rfl

/-- Every table classifies every other word. -/
theorem outcome_classify_of_ne (t : Table κ) {word : String} (h : word ≠ "") :
    (t.classify word).outcome = .ok ((t.get? word).getD ident) := by
  rw [classify, if_neg h]
  rfl

/-- The shared table classifies by the rule. -/
theorem outcome_classify_shared {word : String} (h : word ≠ "") :
    ((shared κ).classify word).outcome = .ok (categoryOf κ word) := by
  rw [outcome_classify_of_ne _ h, get?_shared, categoryOf]

end Keyword.Table

/-! ## The ways to ask -/

/-- **All ways to ask come to `answer`**: the function `lookup` that a version has under its own
name, the one for any vocabulary, the shared table, the token made of the word, which keeps it, and
the version chosen when the program runs, which gives the category's label. -/
structure AllAnswer {κ : Type} [Taxonomy κ] (lookup : String → Traced Violation κ) (word : String)
    (answer : Except Violation κ) : Prop where
  byName : (lookup word).outcome = answer
  byVocabulary : (classify κ word).outcome = answer
  byTable : ((Table.shared κ).classify word).outcome = answer
  byToken : (Token.ofWord word : Traced Violation (Token κ)).outcome =
    answer.map fun c => ⟨c, word⟩
  byVersion : ((version κ).classifyLabel word).outcome = answer.map label

/-- The token of a word keeps the word and takes the word's category. -/
theorem Token.outcome_ofWord {κ : Type} [Taxonomy κ] (word : String) :
    (Token.ofWord word : Traced Violation (Token κ)).outcome =
      (classify κ word).outcome.map fun c => ⟨c, word⟩ :=
  Traced.outcome_map (fun c : κ => (⟨c, word⟩ : Token κ)) (classify κ word)

theorem allAnswer_baseline (word : String) :
    AllAnswer Baseline.classify word (classify Baseline word).outcome where
  byName := rfl
  byVocabulary := rfl
  byTable := rfl
  byToken := Token.outcome_ofWord word
  byVersion := Traced.outcome_map label (Baseline.classify word)

theorem allAnswer_extended (word : String) :
    AllAnswer Extended.classify word (classify Extended word).outcome where
  byName := rfl
  byVocabulary := rfl
  byTable := rfl
  byToken := Token.outcome_ofWord word
  byVersion := Traced.outcome_map label (Extended.classify word)

/-- **Classification by spelling**, of a vocabulary whose own function is `lookup`. -/
structure ClassifiesBySpelling {κ : Type} [Taxonomy κ] (lookup : String → Traced Violation κ) :
    Prop where
  /-- The shared table is what the builder makes of the spellings; it breaks no promise. -/
  built : (Table.ofEntries (reserved κ)).outcome = .ok (Table.shared κ)
  /-- A spelling belongs to one category. -/
  unique : ∀ word (c d : κ), spelling? c = some word → spelling? d = some word → c = d
  /-- A word has a category other than that of identifiers exactly by its spelling. -/
  iff_spelling : ∀ word, ∀ c : κ, c ≠ ident →
    ((lookup word).outcome = .ok c ↔ spelling? c = some word)
  /-- On a non-empty word all ways to ask give the category of the rule. -/
  answer : ∀ word, word ≠ "" → AllAnswer lookup word (.ok (categoryOf κ word))
  /-- The label that a version gives leads back to that category. -/
  label_back : ∀ word l, ((version κ).classifyLabel word).outcome = .ok l →
    ofLabel l = .ok (categoryOf κ word)
  /-- On the empty word all ways to ask break the same promise. -/
  empty : AllAnswer lookup "" (.error .emptyLexeme)

/-- A function classifies by spelling if it and the other ways to ask agree with the shared
table. -/
theorem classifiesBySpelling_of_allAnswer {κ : Type} [Taxonomy κ]
    {lookup : String → Traced Violation κ}
    (agree : ∀ word, AllAnswer lookup word (classify κ word).outcome) :
    ClassifiesBySpelling lookup := by
  have answer (word : String) (h : word ≠ "") :
      AllAnswer lookup word (.ok (categoryOf κ word)) := by
    rw [← Table.outcome_classify_shared h]
    exact agree word
  have empty : AllAnswer lookup "" (.error .emptyLexeme) := by
    rw [← Table.outcome_classify_empty (Table.shared κ)]
    exact agree ""
  refine
    { built := Table.outcome_ofEntries_reserved κ
      unique := fun word c d => eq_of_spelling
      iff_spelling := fun word c hc => ?_
      answer := answer
      label_back := fun word l h => ?_
      empty := empty }
  · by_cases hw : word = ""
    · rw [hw, empty.byName]
      exact ⟨nofun, fun spelled => absurd spelled (spelling_ne_empty c (mem_all c))⟩
    · rw [(answer word hw).byName, Except.ok.injEq, categoryOf_eq_iff hc]
  · by_cases hw : word = ""
    · rw [hw, empty.byVersion] at h
      cases h
    · rw [(answer word hw).byVersion] at h
      cases h
      exact ofLabel_eq_ok_iff.2 rfl

/-- Both versions classify every word by its spelling, whichever way they are asked. -/
theorem classification_is_by_spelling :
    ClassifiesBySpelling Baseline.classify ∧ ClassifiesBySpelling Extended.classify :=
  ⟨classifiesBySpelling_of_allAnswer allAnswer_baseline,
    classifiesBySpelling_of_allAnswer allAnswer_extended⟩

end Lexicon
