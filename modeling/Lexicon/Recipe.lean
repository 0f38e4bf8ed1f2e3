import Lexicon.Fault
import Lexicon.Token

/-!
# Recipes for tokens

The ways to ask for a token when everything, the category included, is given as text.
-/

namespace Lexicon

/-- How a token is to be made. -/
inductive Recipe where
  /-- From the label of its category and its lexeme. -/
  | parts (label lexeme : String)
  /-- From the label of its category and its one character. -/
  | char (label : String) (c : Char)
  /-- From a word. -/
  | word (word : String)
  /-- The end of the text. -/
  | endOfText
  /-- From a character that starts no token. -/
  | illegal (c : Char)
  /-- From JSON text. -/
  | json (text : String)

/-- Makes a token of the vocabulary `κ`. -/
def Recipe.make (κ : Type) [Taxonomy κ] : Recipe → Traced Fault (Token κ)
  | .parts label lexeme => do
    let category ← (Traced.ofExcept (Taxonomy.ofLabel label)).mapError .vocabulary
    return ⟨category, lexeme⟩
  | .char label c => do
    let category ← (Traced.ofExcept (Taxonomy.ofLabel label)).mapError .vocabulary
    return .ofChar category c
  | .word w => (Token.ofWord w).mapError .violation
  | .endOfText => pure .endOfText
  | .illegal c => pure (.ofIllegal c)
  | .json text => (Traced.ofExcept (Json.decode Token.reader text)).mapError .json

/-- Makes a token of a version. -/
def Recipe.makeAny (v : Version) (recipe : Recipe) : Traced Fault AnyToken :=
  match v with
  | .baseline => .baseline <$> recipe.make Baseline
  | .extended => .extended <$> recipe.make Extended

end Lexicon
