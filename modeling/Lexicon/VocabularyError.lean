import Lexicon.Text.Quoted
import Lexicon.Version

/-!
# What can go wrong with a vocabulary

A `VocabularyError` is the cause of a refused name, keyword entry or conversion. Text that came from
a caller is quoted in its message; the label of a category is the vocabulary's own and stands bare.

A `Violation` is a broken promise of the caller: it is not an answer to a question but a sign that
the calling program is wrong.
-/

namespace Lexicon

open Text (quote braced)

/-- The causes for which a vocabulary refuses. -/
inductive VocabularyError where
  /-- No category has this label. -/
  | unknownLabel (label : String)
  /-- A keyword entry repeats this spelling. -/
  | repeatedKeyword (spelling : String)
  /-- The category with this label is not a keyword. -/
  | notKeyword (label : String)
  /-- A keyword is entered under another spelling than its own. -/
  | misspelledKeyword (spelling expected : String)
  /-- The category with this label is missing from the baseline. -/
  | notInBaseline (label : String)
  /-- No version has this name. -/
  | unknownVersion (name : String)
  deriving DecidableEq

namespace VocabularyError

/-- The short name of the cause. -/
def title : VocabularyError → String
  | .unknownLabel _ => "UnknownLabel"
  | .repeatedKeyword _ => "DuplicateKeyword"
  | .notKeyword _ => "NotAKeyword"
  | .misspelledKeyword _ _ => "MisspelledKeyword"
  | .notInBaseline _ => "NotInBaseline"
  | .unknownVersion _ => "UnknownTaxonomy"

/-- The sentence shown to a user. -/
def message : VocabularyError → String
  | .unknownLabel label => "Unknown token label: " ++ quote label
  | .repeatedKeyword spelling => "Keyword " ++ quote spelling ++ " listed more than once"
  | .notKeyword label => "Token type " ++ label ++ " is not a keyword category"
  | .misspelledKeyword spelling expected =>
    "Keyword " ++ quote spelling ++ " must be spelled " ++ quote expected
  | .notInBaseline label => "Token type " ++ label ++ " does not exist in the baseline taxonomy"
  | .unknownVersion name => "Unknown taxonomy version: " ++ quote name

/-- What the cause carries, in the form of a diagnostic. -/
def payload : VocabularyError → String
  | .unknownLabel text | .repeatedKeyword text | .notKeyword text | .notInBaseline text
  | .unknownVersion text => "(" ++ quote text ++ ")"
  | .misspelledKeyword spelling expected =>
    " " ++ braced [("spelling", quote spelling), ("expected", quote expected)]

/-- The diagnostic form: the short name followed by what the cause carries. -/
def debugText (e : VocabularyError) : String :=
  e.title ++ e.payload

end VocabularyError

/-- The promises that callers can break. -/
inductive Violation where
  /-- A word to be classified has at least one character. -/
  | emptyLexeme
  /-- A fixed list of keywords names each spelling once; this one it names again. -/
  | listedTwice (spelling : String)
  deriving DecidableEq

/-- The sentence that names the broken promise. -/
def Violation.message : Violation → String
  | .emptyLexeme => "scanner produced an empty lexeme"
  | .listedTwice spelling => "keyword " ++ quote spelling ++ " listed twice"

/-- Finds the first element that bears a label. -/
def findLabelled {α : Type} (all : List α) (label : α → String) (wanted : String) :
    Except VocabularyError α :=
  match all.find? fun a => label a == wanted with
  | some a => .ok a
  | none => .error (.unknownLabel wanted)

/-- The version of a name; names are compared as they stand. -/
def Version.ofName (name : String) : Except VocabularyError Version :=
  match Version.all.find? fun v => v.name == name with
  | some v => .ok v
  | none => .error (.unknownVersion name)

end Lexicon
