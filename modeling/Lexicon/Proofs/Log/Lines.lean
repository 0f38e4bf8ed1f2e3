import Lexicon.Proofs.Config.Sources
import Lexicon.Proofs.Keyword.Checking
import Lexicon.Proofs.Keyword.FixedLists
import Lexicon.Proofs.Log.Reports
import Lexicon.Proofs.Text.Lines
import Lexicon.Proofs.Vocabulary.Messages

/-!
# No text from outside breaks a line

A word, a lexeme, a spelling, a label, the name of a version and the value of a variable may be any
text, and all of them end up in log records, in the texts of tokens and in the messages of errors.
Wherever that happens the line carries the text (`Text.Carries`): it stands in quotes and can be
read back, and nothing in it starts a new line or poses as a part of this one.

Apart from quoted texts a line has only words of the program, and these are bare: the words of a
message by inspection, the labels and titles because a vocabulary declares no others (`BareNames`).
A label is shown without quotes by two of the errors, and no text from outside comes to be one of
these (`VocabularyError.BareLabel`).

## Main definitions

* `LinesCarryTexts` — the lines about the words and tokens of a vocabulary.
* `AllLinesCarryTexts` — all lines that show a text from outside.
-/

namespace Lexicon

open Taxonomy Keyword Text

/-! ## Errors -/

namespace VocabularyError

/-- The texts that a message quotes. -/
def quoted : VocabularyError → List String
  | .unknownLabel text | .repeatedKeyword text | .unknownVersion text => [text]
  | .misspelledKeyword spelling expected => [spelling, expected]
  | .notKeyword _ | .notInBaseline _ => []

/-- The texts that an error is about. A diagnostic quotes all of them. -/
def subjects : VocabularyError → List String
  | .unknownLabel text | .repeatedKeyword text | .notKeyword text | .notInBaseline text
  | .unknownVersion text => [text]
  | .misspelledKeyword spelling expected => [spelling, expected]

/-- The label that a message shows without quotes, if it does, is bare. -/
def BareLabel : VocabularyError → Prop
  | .notKeyword label | .notInBaseline label => Bare label
  | _ => True

theorem carries_message {e : VocabularyError} (bare : e.BareLabel) :
    Carries e.message e.quoted := by
  unfold message quoted
  cases e with
  | unknownLabel text => exact (carries_words (by decide)).append (carries_quote text)
  | repeatedKeyword spelling =>
      exact ((carries_words (by decide)).append (carries_quote spelling)).append
        (carries_words (by decide))
  | notKeyword label =>
      exact ((carries_words (by decide)).append (carries_words bare)).append
        (carries_words (by decide))
  | misspelledKeyword spelling expected =>
      exact (((carries_words (by decide)).append (carries_quote spelling)).append
        (carries_words (by decide))).append (carries_quote expected)
  | notInBaseline label =>
      exact ((carries_words (by decide)).append (carries_words bare)).append
        (carries_words (by decide))
  | unknownVersion name => exact (carries_words (by decide)).append (carries_quote name)

theorem carries_payload (e : VocabularyError) : Carries e.payload e.subjects := by
  have bracketed (text : String) : Carries ("(" ++ quote text ++ ")") [text] :=
    ((carries_words (by decide)).append (carries_quote text)).append (carries_words (by decide))
  unfold payload subjects
  cases e with
  | misspelledKeyword spelling expected =>
      exact (carries_words (by decide)).append
        ((carries_quote spelling).braced_pair (carries_quote expected) (by decide) (by decide))
  | unknownLabel text => exact bracketed text
  | repeatedKeyword text => exact bracketed text
  | notKeyword text => exact bracketed text
  | notInBaseline text => exact bracketed text
  | unknownVersion text => exact bracketed text

/-- A diagnostic quotes all that it shows. -/
theorem carries_debugText (e : VocabularyError) : Carries e.debugText e.subjects := by
  have bare : ∀ title ∈ titles, Bare title := by decide +kernel
  exact (carries_words (bare _ e.title_mem_titles)).append e.carries_payload

end VocabularyError

/-- The message of a repeated spelling carries it. -/
theorem carries_listedTwice (spelling : String) :
    Carries (Violation.listedTwice spelling).message [spelling] :=
  ((carries_words (by decide)).append (carries_quote spelling)).append (carries_words (by decide))

/-! ## Classification and tokens -/

section Vocabulary

variable (κ : Type) [Taxonomy κ]

/-- The labels and titles of a vocabulary are bare. -/
def BareNames : Prop :=
  ∀ c : κ, Bare (label c) ∧ Bare (title c)

variable {κ} {word : String} {r : Log.Record}

/-- A computation that reports a word and a bare label makes lines that carry the word. -/
theorem Traced.Reports.carries {ε α : Type} {x : Traced ε α} {shownLabel : α → String}
    (reports : x.Reports fun a => some (.classified word (shownLabel a)))
    (bare : ∀ a, Bare (shownLabel a)) (h : r ∈ x.records) : Carries r.text [word] := by
  obtain ⟨a, -, same⟩ := reports.exists_of_mem h
  obtain rfl := Option.some.inj same
  exact (((carries_words (by decide)).append (carries_quote word)).append
    (carries_words (by decide))).append (carries_words (bare a))

variable (κ) in
/-- **The lines about words and tokens** carry the texts that they are about. -/
structure LinesCarryTexts : Prop where
  /-- The record of a word that a table classifies, -/
  classified : ∀ (t : Table κ) word, ∀ r ∈ (t.classify word).records, Carries r.text [word]
  /-- or that a token is made of. -/
  made : ∀ word, ∀ r ∈ (Token.ofWord word : Traced Violation (Token κ)).records,
    Carries r.text [word]
  /-- The texts of a token. -/
  display : ∀ t : Token κ, Carries t.display [t.lexeme]
  debugText : ∀ t : Token κ, Carries t.debugText [t.lexeme]
  /-- The refusal of a label. -/
  unknownLabel : ∀ l e, (ofLabel l : Except VocabularyError κ) = .error e →
    Carries e.message [l] ∧ Carries e.debugText [l]
  /-- The refusal of a keyword entry. -/
  refused : ∀ entries e, (Table.checked entries : Except VocabularyError (Table κ)) = .error e →
    Carries e.message e.quoted ∧ Carries e.debugText e.subjects
  /-- The failure of a fixed list. -/
  broken : ∀ entries broken,
    (Table.ofEntries entries : Traced Violation (Table κ)).outcome = .error broken →
      ∃ s ∈ entries.map Prod.fst, Carries broken.message [s]

/-- What checking refuses it refuses for the label of a category or for quoted texts. -/
theorem bareLabel_causeOf (bare : BareNames κ) (entry : String × κ) :
    (Table.causeOf entry).BareLabel := by
  rw [Table.causeOf]
  cases spelling? entry.2 with
  | none => exact (bare entry.2).1
  | some expected =>
      by_cases own : entry.1 = expected
      · simp only [if_pos own]
        trivial
      · simp only [if_neg own]
        trivial

/-- In a vocabulary of bare names the lines carry the texts. -/
theorem linesCarryTexts_of_bareNames (bare : BareNames κ) : LinesCarryTexts κ where
  classified t word r reported := (t.reports_classify word).carries (fun c => (bare c).1) reported
  made word r reported :=
    (Token.reports_ofWord word).carries (fun t : Token κ => (bare t.category).1) reported
  display t :=
    ((carries_words (bare t.category).1).append (carries_words (by decide))).append
      (carries_quote t.lexeme)
  debugText t :=
    (carries_words (by decide)).append
      ((carries_words (bare t.category).2).braced_pair (carries_quote t.lexeme) (by decide)
        (by decide))
  unknownLabel l e refused := by
    obtain ⟨-, rfl⟩ := ofLabel_eq_error_iff.1 refused
    exact ⟨VocabularyError.carries_message trivial, VocabularyError.carries_debugText _⟩
  refused entries e refused := by
    obtain ⟨-, entry, -, -, rfl⟩ := Table.checked_eq_error_iff.1 refused
    exact ⟨VocabularyError.carries_message (bareLabel_causeOf bare entry),
      VocabularyError.carries_debugText _⟩
  broken entries broken failed := by
    obtain ⟨i, s, c, -, found, rfl⟩ := Table.outcome_ofEntries_eq_error_iff.1 failed
    exact ⟨s, List.mem_map_of_mem (List.mem_of_getElem? found), carries_listedTwice s⟩

end Vocabulary

theorem bareNames_baseline : BareNames Baseline := by
  have declared : ∀ c ∈ (all : List Baseline), Bare (label c) ∧ Bare (title c) := by
    decide +kernel
  exact fun c => declared c (mem_all c)

theorem bareNames_extended : BareNames Extended := by
  have declared : ∀ c ∈ (all : List Extended), Bare (label c) ∧ Bare (title c) := by
    decide +kernel
  exact fun c => declared c (mem_all c)

/-! ## All lines -/

/-- What the baseline refuses it refuses for the label of a category. -/
theorem bareLabel_of_narrow {c : Extended} {e : VocabularyError} (h : c.narrow = .error e) :
    e.BareLabel := by
  rw [Extended.narrow] at h
  cases found : c.narrow? with
  | some b =>
      rw [found] at h
      cases h
  | none =>
      rw [found] at h
      cases h
      exact (bareNames_extended c).1

/-- A token is refused for its category. -/
theorem Token.narrow_category_of_narrow {t : Token Extended} {e : VocabularyError}
    (h : t.narrow = .error e) : t.category.narrow = .error e := by
  rw [narrow] at h
  cases narrowed : t.category.narrow with
  | ok category =>
      rw [narrowed] at h
      cases h
  | error cause =>
      rw [narrowed] at h
      cases h
      rfl

/-- A name is refused because no version has it. -/
theorem Version.eq_unknownVersion_of_ofName {name : String} {e : VocabularyError}
    (h : ofName name = .error e) : e = .unknownVersion name := by
  rw [ofName] at h
  cases search : all.find? fun v => v.name == name with
  | some v =>
      rw [search] at h
      cases h
  | none =>
      rw [search] at h
      cases h
      rfl

/-- A value of the variable is refused for the name that it holds. -/
theorem Config.eq_unknownVersion_of_ofEnvironment {value : Option ByteArray} {e : VocabularyError}
    (h : (ofEnvironment value).outcome = .error (.environment e)) :
    ∃ name, e = .unknownVersion name := by
  cases value with
  | none => cases h
  | some bytes =>
      rw [ofEnvironment] at h
      cases text : String.fromUTF8? bytes with
      | none =>
          rw [text] at h
          cases h
      | some text' =>
          simp only [text] at h
          cases named : Version.ofName (trim text') with
          | ok v =>
              rw [named] at h
              cases h
          | error cause =>
              rw [named] at h
              cases h
              exact ⟨_, Version.eq_unknownVersion_of_ofName named⟩

/-- **Every line that shows a text from outside carries it.** -/
structure AllLinesCarryTexts : Prop where
  baseline : LinesCarryTexts Baseline
  extended : LinesCarryTexts Extended
  /-- The record of a word whose label a version gives. -/
  labelled : ∀ (v : Version) word, ∀ r ∈ (v.classifyLabel word).records, Carries r.text [word]
  /-- The refusal of a category that the baseline lacks, -/
  narrowed : ∀ (c : Extended) e, c.narrow = .error e →
    Carries e.message e.quoted ∧ Carries e.debugText e.subjects
  /-- or of a token that has one. -/
  narrowedToken : ∀ (t : Token Extended) e, t.narrow = .error e →
    Carries e.message e.quoted ∧ Carries e.debugText e.subjects
  /-- The refusal of a name. -/
  unknownVersion : ∀ name e, Version.ofName name = .error e →
    Carries e.message [name] ∧ Carries e.debugText [name]
  /-- The refusal of a value of the variable. -/
  environment : ∀ value e, (Config.ofEnvironment value).outcome = .error (.environment e) →
    ∃ name, e = .unknownVersion name ∧ Carries (ConfigError.environment e).message [name]

/-- Whatever a text from outside holds, the lines that show it carry it. -/
theorem all_lines_carry_texts : AllLinesCarryTexts where
  baseline := linesCarryTexts_of_bareNames bareNames_baseline
  extended := linesCarryTexts_of_bareNames bareNames_extended
  labelled v word r reported := by
    cases v with
    | baseline =>
        rw [Version.classifyLabel, Traced.records_map] at reported
        exact (linesCarryTexts_of_bareNames bareNames_baseline).classified _ word r reported
    | extended =>
        rw [Version.classifyLabel, Traced.records_map] at reported
        exact (linesCarryTexts_of_bareNames bareNames_extended).classified _ word r reported
  narrowed c e refused :=
    ⟨VocabularyError.carries_message (bareLabel_of_narrow refused),
      VocabularyError.carries_debugText e⟩
  narrowedToken t e refused :=
    ⟨VocabularyError.carries_message (bareLabel_of_narrow (Token.narrow_category_of_narrow refused)),
      VocabularyError.carries_debugText e⟩
  unknownVersion name e refused := by
    obtain rfl := Version.eq_unknownVersion_of_ofName refused
    exact ⟨VocabularyError.carries_message trivial, VocabularyError.carries_debugText _⟩
  environment value e refused := by
    obtain ⟨name, rfl⟩ := Config.eq_unknownVersion_of_ofEnvironment refused
    have message : Carries (VocabularyError.unknownVersion name).message [name] :=
      VocabularyError.carries_message trivial
    exact ⟨name, rfl, (((carries_words (by decide)).append (carries_words (by decide))).append
      (carries_words (by decide))).append message⟩

/-- A lexeme that would close its quotes and end the line, and a name that ends in a backslash. -/
theorem quote_and_backslash_carried :
    Carries (Token.mk Extended.string "a\"\n").display ["a\"\n"] ∧
      ∃ e, Version.ofName "v\\" = .error e ∧ Carries e.message ["v\\"] :=
  ⟨all_lines_carry_texts.extended.display _,
    .unknownVersion _, rfl, (all_lines_carry_texts.unknownVersion _ _ rfl).1⟩

end Lexicon
