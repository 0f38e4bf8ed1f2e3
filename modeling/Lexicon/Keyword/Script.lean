import Lexicon.Fault
import Lexicon.Script
import Lexicon.Token

/-!
# Work on a keyword table

A table is built from entries whose categories are given by their labels, questioned, and now and
then rebuilt.

## Main definitions

* `Table.Source`, `Table.Source.build` — where a table comes from.
* `Table.Step`, `Table.perform` — a question to a table, or its replacement.
-/

namespace Lexicon.Keyword.Table

open Taxonomy

/-- Where a table comes from. The categories of entries are given by their labels. -/
inductive Source where
  /-- A fixed list. -/
  | fixed (entries : List (String × String))
  /-- A list to be checked. -/
  | checked (entries : List (String × String))
  /-- The reserved words. -/
  | shared

variable {κ : Type} [Taxonomy κ]

/-- The entries with their categories; all labels are read before anything else is asked. -/
def readEntries (entries : List (String × String)) :
    Except VocabularyError (List (String × κ)) :=
  entries.mapM fun entry => (ofLabel entry.2).map fun c => (entry.1, c)

/-- Builds a table. -/
def Source.build : Source → Traced Fault (Table κ)
  | .fixed entries => do
    let entries ← (Traced.ofExcept (readEntries entries)).mapError .vocabulary
    (ofEntries entries).mapError .violation
  | .checked entries => do
    let entries ← (Traced.ofExcept (readEntries entries)).mapError .vocabulary
    (Traced.ofExcept (Table.checked entries)).mapError .vocabulary
  | .shared => pure (Table.shared κ)

/-- A question to a table, or an order to replace it. -/
inductive Step where
  | classify (word : String)
  | get (word : String)
  | contains (word : String)
  | size
  | isEmpty
  | entries
  /-- The token that the table makes of a word. -/
  | token (word : String)
  /-- Checks the table's own entries, sorted. -/
  | recheck
  /-- Builds another table. -/
  | build (source : Source)

/-- The answer to a step. -/
inductive Reply (κ : Type) where
  | category (c : κ)
  | lookup (c : Option κ)
  | truth (b : Bool)
  | count (n : Nat)
  | entries (entries : List (String × κ))
  | token (t : Token κ)

/-- Performs a step. -/
def perform (t : Table κ) : Step → Traced Fault (Reply κ × Table κ)
  | .classify word => do
    let c ← (t.classify word).mapError .violation
    return (.category c, t)
  | .get word => pure (.lookup (t.get? word), t)
  | .contains word => pure (.truth (t.contains word), t)
  | .size => pure (.count t.size, t)
  | .isEmpty => pure (.truth t.isEmpty, t)
  | .entries => pure (.entries t.sortedEntries, t)
  | .token word => do
    let c ← (t.classify word).mapError .violation
    return (.token ⟨c, word⟩, t)
  | .recheck => do
    let u ← (Traced.ofExcept (Table.checked t.sortedEntries)).mapError .vocabulary
    return (.count u.size, u)
  | .build source => do
    let u ← source.build
    return (.count u.size, u)

end Lexicon.Keyword.Table
