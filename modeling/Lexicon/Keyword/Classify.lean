import Lexicon.Baseline
import Lexicon.Extended
import Lexicon.Keyword.Table

/-!
# Classifying words

The ways to ask for the category of a word by the reserved words of a vocabulary: for a vocabulary
given as a type, for each of the two versions by name, and for a version known only when the program
runs.
-/

namespace Lexicon

open Taxonomy Keyword

/-- The category of a word in the vocabulary `κ`. -/
def classify (κ : Type) [Taxonomy κ] (word : String) : Traced Violation κ :=
  (Table.shared κ).classify word

/-- The baseline category of a word. -/
def Baseline.classify (word : String) : Traced Violation Baseline :=
  (Table.shared Baseline).classify word

/-- The extended category of a word. -/
def Extended.classify (word : String) : Traced Violation Extended :=
  (Table.shared Extended).classify word

namespace Version

/-- The label of a word's category in a version. -/
def classifyLabel (v : Version) (word : String) : Traced Violation String :=
  match v with
  | .baseline => label <$> Baseline.classify word
  | .extended => label <$> Extended.classify word

/-- The labels of a version's categories, in the order of declaration. -/
def labels : Version → List String
  | .baseline => Taxonomy.labels Baseline
  | .extended => Taxonomy.labels Extended

/-- The reserved words of a version, sorted. -/
def keywords : Version → List String
  | .baseline => sorted Baseline
  | .extended => sorted Extended
where
  /-- The spellings of a shared table, sorted. -/
  sorted (κ : Type) [Taxonomy κ] : List String :=
    (Table.shared κ).entries.map Prod.fst |>.mergeSort

end Version

end Lexicon
