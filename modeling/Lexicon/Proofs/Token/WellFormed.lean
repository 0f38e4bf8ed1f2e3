import Lexicon.Proofs.Keyword.Classification

/-!
# Well-formed tokens

Whether a token is well formed is a question about its lexeme once the kind of its category is
known: a keyword has to be written by its spelling, an identifier by a word that is not reserved.

Both questions have one answer (`isWellFormed_iff_categoryOf`): the category is the one that the
rule of classification gives to the lexeme.  So a well-formed token of a word is the token that the
vocabulary makes of that word, and there is no other.  That the lexeme is not empty has a reason of
its own on each side: the empty word is not classified, and no spelling is empty.

## Main definitions

* `WellFormedAsMade` — well-formed tokens of words are those that classification makes.
-/

namespace Lexicon.Token

open Taxonomy Keyword

variable {κ : Type} [Taxonomy κ] {t : Token κ}

/-- A word with a character is made into the token of its category. -/
theorem outcome_ofWord_of_ne {word : String} (h : word ≠ "") :
    (ofWord word : Traced Violation (Token κ)).outcome = .ok ⟨categoryOf κ word, word⟩ := by
  rw [outcome_ofWord, classify, Table.outcome_classify_shared h]
  rfl

/-- A lexeme is made into its token exactly if that has the category of the lexeme. -/
theorem outcome_ofWord_lexeme_iff (h : t.lexeme ≠ "") :
    (ofWord t.lexeme).outcome = .ok t ↔ categoryOf κ t.lexeme = t.category := by
  obtain ⟨c, word⟩ := t
  rw [outcome_ofWord_of_ne h, Except.ok.injEq, mk.injEq]
  exact and_iff_left rfl

variable [DecidableEq κ]

/-! ## The three kinds of categories -/

/-- A keyword is written by its spelling. -/
theorem isWellFormed_iff_of_keyword {spelling : String}
    (h : spelling? t.category = some spelling) :
    t.isWellFormed = true ↔ t.lexeme = spelling := by
  rw [isWellFormed, h]
  exact beq_iff_eq

/-- An identifier is a word, and not a reserved one. -/
theorem isWellFormed_iff_of_ident (h : t.category = ident) :
    t.isWellFormed = true ↔ t.lexeme ≠ "" ∧ (Table.shared κ).contains t.lexeme = false := by
  rw [isWellFormed, h, spelling?_ident]
  simp only [if_pos, Bool.and_eq_true, bne_iff_ne, Bool.not_eq_true', ne_eq]

/-- A keyword token that is well formed is the pair of a category and its spelling. -/
theorem isKeyword_and_isWellFormed_iff :
    (t.isKeyword = true ∧ t.isWellFormed = true) ↔ spelling? t.category = some t.lexeme := by
  constructor
  · rintro ⟨keyword, wellFormed⟩
    obtain ⟨spelling, spelled⟩ := Option.isSome_iff_exists.1 keyword
    rw [spelled, (isWellFormed_iff_of_keyword spelled).1 wellFormed]
  · intro spelled
    exact ⟨Option.isSome_iff_exists.2 ⟨_, spelled⟩, (isWellFormed_iff_of_keyword spelled).2 rfl⟩

/-- Nothing is asked of a token that is neither an identifier nor a keyword. -/
theorem isWellFormed_of_other (notIdent : t.category ≠ ident) (notKeyword : t.isKeyword = false) :
    t.isWellFormed = true := by
  have unspelled : spelling? t.category = none := by
    rwa [isKeyword, Taxonomy.isKeyword, Option.isSome_eq_false_iff, Option.isNone_iff_eq_none]
      at notKeyword
  rw [isWellFormed, unspelled]
  exact if_neg notIdent

/-! ## Well-formed tokens of words -/

/-- **One question for both kinds**: is the category of the token that of its lexeme? -/
theorem isWellFormed_iff_categoryOf (h : t.category = ident ∨ t.isKeyword = true) :
    t.isWellFormed = true ↔ t.lexeme ≠ "" ∧ categoryOf κ t.lexeme = t.category := by
  rcases h with isIdent | keyword
  · rw [isWellFormed_iff_of_ident isIdent, isIdent, Table.categoryOf_eq_ident_iff]
  · obtain ⟨spelling, spelled⟩ := Option.isSome_iff_exists.1 keyword
    have other : t.category ≠ ident := ne_ident_of_spelling spelled
    have nonempty : spelling ≠ "" := by
      rintro rfl
      exact spelling_ne_empty t.category (mem_all _) spelled
    rw [isWellFormed_iff_of_keyword spelled, categoryOf_eq_iff other, spelled, Option.some.injEq]
    constructor
    · rintro rfl
      exact ⟨nonempty, rfl⟩
    · rintro ⟨-, same⟩
      exact same.symm

/-- The token that a word is made into is well formed. -/
theorem isWellFormed_made {word : String} (h : word ≠ "") :
    (Token.mk (categoryOf κ word) word).isWellFormed = true :=
  (isWellFormed_iff_categoryOf (Table.ident_or_isKeyword_categoryOf word)).2 ⟨h, rfl⟩

/-- No other identifier or keyword is a well-formed token of the word. -/
theorem existsUnique_wellFormed {word : String} (h : word ≠ "") :
    ∃! t : Token κ, t.lexeme = word ∧ (t.category = ident ∨ t.isKeyword = true) ∧
      t.isWellFormed = true := by
  refine ⟨⟨categoryOf κ word, word⟩,
    ⟨rfl, Table.ident_or_isKeyword_categoryOf word, isWellFormed_made h⟩, ?_⟩
  rintro ⟨c, _⟩ ⟨rfl, isWord, wellFormed⟩
  have same := ((isWellFormed_iff_categoryOf isWord).1 wellFormed).2
  rw [mk.injEq]
  exact ⟨same.symm, rfl⟩

/-! ## Single characters -/

section Char

variable {ch : Char} (short : ∀ c : κ, spelling? c ≠ some (String.singleton ch))

include short

/-- A character that is no reserved word is an identifier. -/
theorem isWellFormed_ofChar_ident : (ofChar (ident : κ) ch).isWellFormed = true := by
  rw [isWellFormed_iff_of_ident rfl, ← Bool.not_eq_true, Table.contains_shared_iff]
  refine ⟨String.singleton_ne_empty, ?_⟩
  rintro ⟨c, spelled⟩
  exact short c spelled

/-- And it is no keyword. -/
theorem isWellFormed_ofChar_of_isKeyword {c : κ} (keyword : Taxonomy.isKeyword c = true) :
    (ofChar c ch).isWellFormed = false := by
  obtain ⟨spelling, spelled⟩ := Option.isSome_iff_exists.1 keyword
  rw [← Bool.not_eq_true, isWellFormed_iff_of_keyword spelled]
  rintro rfl
  exact short c spelled

end Char

/-- **The well-formed tokens of words are those that classification makes.** -/
structure WellFormedAsMade (κ : Type) [Taxonomy κ] [DecidableEq κ] : Prop where
  /-- An identifier or a keyword is well formed exactly if it is the token of its lexeme. -/
  word_iff : ∀ t : Token κ, t.category = ident ∨ t.isKeyword = true →
    (t.isWellFormed = true ↔ t.lexeme ≠ "" ∧ (ofWord t.lexeme).outcome = .ok t)
  /-- Any other token is well formed. -/
  other : ∀ t : Token κ, t.category ≠ ident → t.isKeyword = false → t.isWellFormed = true
  /-- Every word with a character is made into a well-formed token. -/
  made : ∀ word, word ≠ "" →
    ∃ t : Token κ, (ofWord word).outcome = .ok t ∧ t.isWellFormed = true
  /-- No other identifier or keyword is a well-formed token of the word. -/
  unique : ∀ word, word ≠ "" →
    ∃! t : Token κ, t.lexeme = word ∧ (t.category = ident ∨ t.isKeyword = true) ∧
      t.isWellFormed = true
  /-- A single character makes a well-formed identifier, -/
  ofChar_ident : ∀ ch, (ofChar (ident : κ) ch).isWellFormed = true
  /-- and never a well-formed keyword. -/
  ofChar_keyword : ∀ c : κ, Taxonomy.isKeyword c = true → ∀ ch, (ofChar c ch).isWellFormed = false

/-- A vocabulary judges tokens by its own classification if no reserved word is a single
character. -/
theorem wellFormedAsMade_of_length
    (long : ∀ c : κ, ∀ spelling ∈ spelling? c, spelling.length ≠ 1) : WellFormedAsMade κ := by
  have short (ch : Char) (c : κ) : spelling? c ≠ some (String.singleton ch) :=
    fun spelled => long c _ spelled String.length_singleton
  exact
    { word_iff := fun t isWord => by
        rw [isWellFormed_iff_categoryOf isWord]
        exact and_congr_right fun h => (outcome_ofWord_lexeme_iff h).symm
      other := fun t => isWellFormed_of_other
      made := fun word h => ⟨_, outcome_ofWord_of_ne h, isWellFormed_made h⟩
      unique := fun word => existsUnique_wellFormed
      ofChar_ident := fun ch => isWellFormed_ofChar_ident (short ch)
      ofChar_keyword := fun c keyword ch => isWellFormed_ofChar_of_isKeyword (short ch) keyword }

/-- Both versions judge the tokens of words by what they make of the words. -/
theorem wellFormed_exactly_as_made : WellFormedAsMade Baseline ∧ WellFormedAsMade Extended := by
  have baseline : ∀ c ∈ (all : List Baseline), ∀ spelling ∈ spelling? c, spelling.length ≠ 1 := by
    decide +kernel
  have extended : ∀ c ∈ (all : List Extended), ∀ spelling ∈ spelling? c, spelling.length ≠ 1 := by
    decide +kernel
  exact ⟨wellFormedAsMade_of_length fun c => baseline c (mem_all c),
    wellFormedAsMade_of_length fun c => extended c (mem_all c)⟩

end Lexicon.Token
