import Lexicon.Keyword.Classify
import Lexicon.Json.Container
import Lexicon.Json.Skip
import Lexicon.Widening

/-!
# Tokens

A token is a category with the piece of program text that has it. It is generic in the vocabulary,
so that scanners and parsers work with either version.

## Main definitions

* `Token`, `Token.ofWord` — a token, and the one that the vocabulary makes of a word.
* `Token.isWellFormed` — whether category and lexeme agree with the reserved words.
* `Token.display`, `Token.debugText`, `Token.json` — the texts of a token.
* `Token.reader` — the reader of its JSON text.
* `Token.widen`, `Token.narrow` — the token in the other version.
-/

namespace Lexicon

open Taxonomy Keyword
open Text (quote braced)

/-- A category with its piece of program text. -/
structure Token (κ : Type) where
  category : κ
  lexeme : String
  deriving DecidableEq

namespace Token

variable {κ : Type}

/-! ## Making tokens -/

/-- The token of a single character. -/
def ofChar (category : κ) (c : Char) : Token κ :=
  ⟨category, String.singleton c⟩

variable [Taxonomy κ]

/-- The token of a word: the vocabulary decides whether it is reserved. -/
def ofWord (word : String) : Traced Violation (Token κ) := do
  let category ← classify κ word
  return ⟨category, word⟩

/-- The token at the end of a text. -/
def endOfText : Token κ := ⟨eof, ""⟩

/-- The token of a character that starts no token. -/
def ofIllegal (c : Char) : Token κ := ofChar illegal c

/-! ## What a token is -/

/-- Whether the category is a keyword. -/
def isKeyword (t : Token κ) : Bool :=
  Taxonomy.isKeyword t.category

/-- Whether category and lexeme agree: a keyword is written by its spelling, and an identifier is
not empty and not reserved. Nothing is asked of other tokens. -/
def isWellFormed [DecidableEq κ] (t : Token κ) : Bool :=
  match spelling? t.category with
  | some spelling => t.lexeme == spelling
  | none =>
    if t.category = ident then t.lexeme != "" && !(Table.shared κ).contains t.lexeme else true

/-! ## Texts -/

/-- The label and the quoted lexeme. -/
def display (t : Token κ) : String :=
  label t.category ++ " " ++ quote t.lexeme

/-- The diagnostic form. -/
def debugText (t : Token κ) : String :=
  "Token " ++ braced [("token_type", title t.category), ("lexeme", quote t.lexeme)]

/-- The name of the category in JSON text. -/
def categoryKey : String := "token_type"

/-- The name of the lexeme in JSON text. -/
def lexemeKey : String := "lexeme"

/-- The JSON text: the name of the category, then the lexeme. -/
def encode (t : Token κ) : List Char :=
  Json.object [Json.member categoryKey (Json.literal (name t.category)),
    Json.member lexemeKey (Json.literal t.lexeme)]

/-- The JSON text as a string. -/
def json (t : Token κ) : String :=
  String.ofList t.encode

/-! ## Reading JSON text -/

variable (κ) in
/-- Reads a category by its name. -/
def categoryReader : Json.Reader κ :=
  Json.choice (named κ)

/-- The fields of a token as far as they have been read. -/
structure Draft (κ : Type) where
  category : Option κ
  lexeme : Option String

/-- Each of the two fields may occur once; members of other names are passed over. -/
def Draft.visit : Json.Visitor (Draft κ) := fun draft key =>
  if key = categoryKey then
    match draft.category with
    | some _ => .error (.repeatedField key)
    | none => .ok ((categoryReader κ).map fun c => ⟨some c, draft.lexeme⟩)
  else if key = lexemeKey then
    match draft.lexeme with
    | some _ => .error (.repeatedField key)
    | none => .ok (Json.string.map fun s => ⟨draft.category, some s⟩)
  else .ok (Json.skipped.map fun _ => draft)

/-- The token of a draft, which has to have both fields. -/
def Draft.finish : Draft κ → Except Json.Cause (Token κ)
  | ⟨some category, some lexeme⟩ => .ok ⟨category, lexeme⟩
  | ⟨none, _⟩ => .error (.missingField categoryKey)
  | ⟨some _, none⟩ => .error (.missingField lexemeKey)

/-- The name of the record in messages. -/
def recordName : String := "Token"

/-- A token written as an array: its category, then its lexeme. -/
def ofArray : Json.Content (Token κ) where
  read s :=
    match Json.field recordName 2 0 (categoryReader κ) s with
    | .error e => .error e
    | .ok (category, s) =>
      match Json.field recordName 2 1 Json.string s with
      | .error e => .error e
      | .ok (lexeme, s) => .ok (⟨category, lexeme⟩, s)
  notLonger {s t r} h := by
    split at h
    · cases h
    · next first =>
      have := Json.length_le_of_field first
      split at h
      · cases h
      · next second =>
        have := Json.length_le_of_field second
        cases h
        omega

/-- A token written as an object. -/
def ofObject : Json.Content (Token κ) where
  read s :=
    match Json.members Draft.visit true ⟨none, none⟩ s with
    | .error e => .error e
    | .ok (draft, r) =>
      match draft.finish with
      | .ok token => .ok (token, r)
      | .error cause => Json.Bracket.curly.refuse r cause
  notLonger {s t r} h := by
    split at h
    · cases h
    · next read =>
      have := Json.length_le_of_members read
      split at h
      · cases h
        exact this
      · cases h

/-- Reads a token. -/
def reader : Json.Reader (Token κ) :=
  Json.record recordName ofArray ofObject

/-! ## Moving between the versions -/

/-- The token with the extended counterpart of its category. -/
def widen (t : Token Baseline) : Token Extended :=
  ⟨t.category.widen, t.lexeme⟩

/-- The token with the baseline counterpart of its category, if the baseline has it. -/
def narrow (t : Token Extended) : Except VocabularyError (Token Baseline) :=
  match t.category.narrow with
  | .ok category => .ok ⟨category, t.lexeme⟩
  | .error e => .error e

end Token

/-- A token of either version. -/
inductive AnyToken where
  | baseline (token : Token Baseline)
  | extended (token : Token Extended)
  deriving DecidableEq

namespace AnyToken

/-- Whether the category is a keyword. -/
def isKeyword : AnyToken → Bool
  | .baseline t => t.isKeyword
  | .extended t => t.isKeyword

/-- Whether category and lexeme agree. -/
def isWellFormed : AnyToken → Bool
  | .baseline t => t.isWellFormed
  | .extended t => t.isWellFormed

/-- The token in the extended version. -/
def widen : AnyToken → AnyToken
  | .baseline t => .extended t.widen
  | .extended t => .extended t

/-- The token in the baseline version, if the baseline has its category. -/
def narrow : AnyToken → Except VocabularyError AnyToken
  | .baseline t => .ok (.baseline t)
  | .extended t =>
    match t.narrow with
    | .ok t => .ok (.baseline t)
    | .error e => .error e

end AnyToken

end Lexicon
