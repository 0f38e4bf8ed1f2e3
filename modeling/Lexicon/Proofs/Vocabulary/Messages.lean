import Lexicon.Proofs.Text.Wording
import Lexicon.VocabularyError

/-!
# Messages identify errors

Whoever sees the message of an error, or its diagnostic form, can tell which error it was.  Both are
taken apart from the left.  The words that open a message leave at most two causes open
(`message_inj`); of two that open alike, quoted texts are told apart by `Text.append_inj_of_quote`
and what follows them, and the labels, which stand bare and may be any text, by the words that end
the sentence.  A diagnostic opens with the title of its cause, which leaves one (`debugText_inj`).

## Main definitions

* `VocabularyError.opening`, `VocabularyError.remainder` — the two parts of a message.
-/

namespace Lexicon.VocabularyError

open Text

variable {a b : VocabularyError}

/-! ## Messages -/

/-- The words that open a message. -/
def opening : VocabularyError → String
  | .unknownLabel _ => "Unknown token label: "
  | .repeatedKeyword _ | .misspelledKeyword _ _ => "Keyword "
  | .notKeyword _ | .notInBaseline _ => "Token type "
  | .unknownVersion _ => "Unknown taxonomy version: "

/-- What a message says after them. -/
def remainder : VocabularyError → String
  | .unknownLabel text | .unknownVersion text => quote text
  | .repeatedKeyword spelling => quote spelling ++ " listed more than once"
  | .misspelledKeyword spelling expected =>
    quote spelling ++ (" must be spelled " ++ quote expected)
  | .notKeyword label => label ++ " is not a keyword category"
  | .notInBaseline label => label ++ " does not exist in the baseline taxonomy"

theorem message_eq (e : VocabularyError) : e.message = e.opening ++ e.remainder := by
  unfold message opening remainder
  cases e <;> simp only [String.append_assoc]

/-- The words that open messages. -/
def openings : List String :=
  ["Unknown token label: ", "Keyword ", "Token type ", "Unknown taxonomy version: "]

theorem prefixFree_openings : PrefixFree openings := by decide +kernel

theorem opening_mem_openings (e : VocabularyError) : e.opening ∈ openings := by
  cases e <;> simp [opening, openings]

/-- After the spelling of a keyword, a message goes on in one of two ways. -/
theorem listed_ne_spelled (expected : String) :
    " listed more than once" ≠ " must be spelled " ++ quote expected := by
  intro same
  have free : PrefixFree [" listed more than once", " must be spelled "] := by decide +kernel
  rw [← String.append_empty (s := " listed more than once")] at same
  obtain ⟨words, -⟩ := free.append_inj (by simp) (by simp) same
  exact absurd words (by decide)

/-- After a label, whatever it is, a message ends in one of two ways. -/
theorem label_append_ne (l m : String) :
    l ++ " is not a keyword category" ≠ m ++ " does not exist in the baseline taxonomy" := by
  intro same
  have free : SuffixFree
      [" is not a keyword category", " does not exist in the baseline taxonomy"] := by
    decide +kernel
  obtain ⟨-, words⟩ := free.append_inj (by simp) (by simp) same
  exact absurd words (by decide)

/-- Errors whose messages have both parts in common are the same. -/
theorem eq_of_opening_of_remainder (opened : a.opening = b.opening)
    (continued : a.remainder = b.remainder) : a = b := by
  cases a with
  | unknownLabel text =>
      cases b with
      | unknownLabel text' => rw [quote_inj continued]
      | _ => simp [opening] at opened
  | repeatedKeyword spelling =>
      cases b with
      | repeatedKeyword spelling' => rw [(append_inj_of_quote continued).1]
      | misspelledKeyword spelling' expected =>
          exact absurd (append_inj_of_quote continued).2 (listed_ne_spelled expected)
      | _ => simp [opening] at opened
  | misspelledKeyword spelling expected =>
      cases b with
      | repeatedKeyword spelling' =>
          exact absurd (append_inj_of_quote continued).2.symm (listed_ne_spelled expected)
      | misspelledKeyword spelling' expected' =>
          obtain ⟨spellings, rest⟩ := append_inj_of_quote continued
          rw [spellings, quote_inj ((String.append_right_inj _).1 rest)]
      | _ => simp [opening] at opened
  | notKeyword label =>
      cases b with
      | notKeyword label' => rw [(String.append_left_inj _).1 continued]
      | notInBaseline label' => exact absurd continued (label_append_ne label label')
      | _ => simp [opening] at opened
  | notInBaseline label =>
      cases b with
      | notKeyword label' => exact absurd continued.symm (label_append_ne label' label)
      | notInBaseline label' => rw [(String.append_left_inj _).1 continued]
      | _ => simp [opening] at opened
  | unknownVersion text =>
      cases b with
      | unknownVersion text' => rw [quote_inj continued]
      | _ => simp [opening] at opened

/-- **No two errors have the same message.** -/
theorem message_inj (h : a.message = b.message) : a = b := by
  rw [message_eq, message_eq] at h
  obtain ⟨opened, continued⟩ :=
    prefixFree_openings.append_inj a.opening_mem_openings b.opening_mem_openings h
  exact eq_of_opening_of_remainder opened continued

/-! ## Diagnostics -/

/-- The titles of the causes. -/
def titles : List String :=
  ["UnknownLabel", "DuplicateKeyword", "NotAKeyword", "MisspelledKeyword", "NotInBaseline",
    "UnknownTaxonomy"]

theorem prefixFree_titles : PrefixFree titles := by decide +kernel

theorem title_mem_titles (e : VocabularyError) : e.title ∈ titles := by
  cases e <;> simp [title, titles]

/-- A text in quotes and brackets can be told from what is written. -/
theorem bracketed_inj {s t : String} (h : "(" ++ quote s ++ ")" = "(" ++ quote t ++ ")") :
    s = t := by
  rw [String.append_left_inj, String.append_right_inj] at h
  exact quote_inj h

/-- Errors under one title that carry the same are the same. -/
theorem eq_of_title_of_payload (titled : a.title = b.title) (carried : a.payload = b.payload) :
    a = b := by
  cases a with
  | misspelledKeyword spelling expected =>
      cases b with
      | misspelledKeyword spelling' expected' =>
          obtain ⟨spellings, expectations⟩ :=
            quotes_inj_of_braced ((String.append_right_inj " ").1 carried)
          rw [spellings, expectations]
      | _ => simp [title] at titled
  | unknownLabel text =>
      cases b with
      | unknownLabel text' => rw [bracketed_inj carried]
      | _ => simp [title] at titled
  | repeatedKeyword text =>
      cases b with
      | repeatedKeyword text' => rw [bracketed_inj carried]
      | _ => simp [title] at titled
  | notKeyword text =>
      cases b with
      | notKeyword text' => rw [bracketed_inj carried]
      | _ => simp [title] at titled
  | notInBaseline text =>
      cases b with
      | notInBaseline text' => rw [bracketed_inj carried]
      | _ => simp [title] at titled
  | unknownVersion text =>
      cases b with
      | unknownVersion text' => rw [bracketed_inj carried]
      | _ => simp [title] at titled

/-- **No two errors have the same diagnostic form.** -/
theorem debugText_inj (h : a.debugText = b.debugText) : a = b := by
  rw [debugText, debugText] at h
  obtain ⟨titled, carried⟩ :=
    prefixFree_titles.append_inj a.title_mem_titles b.title_mem_titles h
  exact eq_of_title_of_payload titled carried

/-- Errors are the same if their messages are, and if their diagnostic forms are. -/
theorem texts_identify_errors (a b : VocabularyError) :
    (a.message = b.message ↔ a = b) ∧ (a.debugText = b.debugText ↔ a = b) :=
  ⟨⟨message_inj, congrArg message⟩, ⟨debugText_inj, congrArg debugText⟩⟩

end Lexicon.VocabularyError
