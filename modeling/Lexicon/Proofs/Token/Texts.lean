import Lexicon.Proofs.Text.Quoting
import Lexicon.Proofs.Token.RoundTrip
import Lexicon.Proofs.Vocabulary.Labels
import Mathlib.Tactic.TFAE

/-!
# The texts of a token are faithful

A token has three texts, one for messages, one for diagnostics and one in JSON, and each of them
determines it.  Each puts a word of the vocabulary before the lexeme, and the reader of the text has
to tell where that word ends: no label has a space (`takeWhile_display`), no title a comma
(`debugText_inj`).  What stands behind it is the quoted lexeme, and quoting loses nothing
(`Text.quote_append_inj`).  The JSON text is read back as the token (`json_inj`).

## Main definitions

* `TextsAreFaithful` — a token can be told from any of its texts.
-/

namespace Lexicon.Token

open Taxonomy
open Text (quote append_sep_inj quote_append_inj quote_inj takeWhile_before)

variable {κ : Type} {a b : Token κ}

/-- A token is its category and its lexeme. -/
theorem eq_of_parts (category : a.category = b.category) (lexeme : a.lexeme = b.lexeme) : a = b := by
  cases a
  cases b
  cases category
  cases lexeme
  rfl

variable [Taxonomy κ]

/-! ## The text for messages -/

theorem toList_display (t : Token κ) :
    t.display.toList = (label t.category).toList ++ ' ' :: (quote t.lexeme).toList := by
  rw [display, String.toList_append, String.toList_append, List.append_assoc]
  rfl

section Display

variable (spaceless : ∀ c : κ, ' ' ∉ (label c).toList)

include spaceless

/-- Up to the first space stands the label. -/
theorem takeWhile_display (t : Token κ) :
    t.display.toList.takeWhile (· != ' ') = (label t.category).toList := by
  rw [toList_display]
  exact takeWhile_before (spaceless t.category)

theorem display_inj (h : a.display = b.display) : a = b := by
  have texts := congrArg String.toList h
  rw [toList_display, toList_display] at texts
  obtain ⟨labels, quoted⟩ :=
    append_sep_inj (spaceless a.category) (spaceless b.category) texts
  exact eq_of_parts (label_injective (String.toList_inj.1 labels))
    (quote_inj (String.toList_inj.1 quoted))

end Display

/-! ## The text for diagnostics -/

theorem toList_debugText (t : Token κ) :
    t.debugText.toList = ("Token " ++ String.singleton '{' ++ " token_type: ").toList ++
      ((title t.category).toList ++ ',' :: (" lexeme: ".toList ++ ((quote t.lexeme).toList ++
        (" " ++ String.singleton '}').toList))) := by
  have opening : " token_type: " = " " ++ "token_type" ++ ": " := by decide
  have comma : ", ".toList ++ ("lexeme".toList ++ ": ".toList) = ',' :: " lexeme: ".toList := by
    decide
  rw [← List.cons_append, ← comma, opening, debugText, Text.braced_pair]
  simp only [String.toList_append, List.append_assoc]

theorem debugText_inj (commaless : ∀ c : κ, ',' ∉ (title c).toList)
    (h : a.debugText = b.debugText) : a = b := by
  have texts := congrArg String.toList h
  rw [toList_debugText, toList_debugText] at texts
  obtain ⟨titles, rest⟩ :=
    append_sep_inj (commaless a.category) (commaless b.category) (List.append_cancel_left texts)
  have quoted := List.append_cancel_left rest
  exact eq_of_parts (title_injective (String.toList_inj.1 titles)) (quote_append_inj quoted).1

/-! ## The JSON text -/

/-- What is read back as a token determines it. -/
theorem json_inj (h : a.json = b.json) : a = b := by
  have read := decode_json a
  rw [h, decode_json b] at read
  cases read
  rfl

/-! ## Faithful texts -/

variable (κ) in
/-- **The texts of a token are faithful**: tokens are the same if any of their texts are, and the
category is read off the beginning of the text for messages. -/
structure TextsAreFaithful : Prop where
  same : ∀ a b : Token κ,
    [a = b, a.display = b.display, a.debugText = b.debugText, a.json = b.json].TFAE
  /-- Up to the first space stands the label, -/
  label : ∀ t : Token κ,
    t.display.toList.takeWhile (· != ' ') = (label t.category).toList
  /-- which leads back to the category. -/
  category : ∀ t : Token κ,
    ofLabel (String.ofList (t.display.toList.takeWhile (· != ' '))) = .ok t.category

/-- The texts are faithful in a vocabulary whose labels have no space and whose titles have no
comma. -/
theorem textsAreFaithful_of_bare (spaceless : ∀ c : κ, ' ' ∉ (label c).toList)
    (commaless : ∀ c : κ, ',' ∉ (title c).toList) : TextsAreFaithful κ where
  same a b := by
    tfae_have 1 → 2 := congrArg display
    tfae_have 1 → 3 := congrArg debugText
    tfae_have 1 → 4 := congrArg json
    tfae_have 2 → 1 := display_inj spaceless
    tfae_have 3 → 1 := debugText_inj commaless
    tfae_have 4 → 1 := json_inj
    tfae_finish
  label := takeWhile_display spaceless
  category t := by
    rw [takeWhile_display spaceless, String.ofList_toList]
    exact ofLabel_eq_ok_iff.2 rfl

/-- In both versions the texts of a token are faithful. -/
theorem texts_are_faithful : TextsAreFaithful Baseline ∧ TextsAreFaithful Extended := by
  -- What the labels and titles are free of is decided over the declared categories.
  have baseline : ∀ c ∈ (all : List Baseline), ' ' ∉ (label c).toList ∧ ',' ∉ (title c).toList := by
    decide +kernel
  have extended : ∀ c ∈ (all : List Extended), ' ' ∉ (label c).toList ∧ ',' ∉ (title c).toList := by
    decide +kernel
  exact ⟨textsAreFaithful_of_bare (fun c => (baseline c (mem_all c)).1)
      fun c => (baseline c (mem_all c)).2,
    textsAreFaithful_of_bare (fun c => (extended c (mem_all c)).1)
      fun c => (extended c (mem_all c)).2⟩

end Lexicon.Token
