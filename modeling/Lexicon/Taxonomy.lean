import Lexicon.VocabularyError

/-!
# Taxonomies

A taxonomy is a finite enumeration `κ` of token categories, each with a `Profile`: how it is called
in the three kinds of text that mention it, and the role its tokens play. Everything else about a
vocabulary (group membership, reserved words, classification) is read off the profiles.

## Main definitions

* `Role`, `Profile` — what is declared of a category.
* `Taxonomy κ` — an enumeration with its profiles and three categories of special use.
* `Taxonomy.spelling?` — the one spelling of a keyword category.
* `Taxonomy.ofLabel` — the category of a label.

## Design notes

The laws of a taxonomy are fields over its finite list of categories, so that they are evaluated
once, where an enumeration is declared, and hold of both versions wherever a vocabulary is used.
-/

namespace Lexicon

/-- The part that the tokens of a category play in a program. -/
inductive Role where
  /-- Marks the end of the text or something that is no token. -/
  | special
  /-- A name or a literal value. -/
  | literal
  /-- An operator. -/
  | operator
  /-- A separator or a bracket. -/
  | delimiter
  /-- A reserved word, always written by its spelling. -/
  | keyword (spelling : String)
  deriving DecidableEq

/-- The spelling of a reserved word. -/
def Role.spelling? : Role → Option String
  | .keyword spelling => some spelling
  | _ => none

/-- What is declared of a category. -/
structure Profile where
  /-- The capitalised name, for diagnostics. -/
  title : String
  /-- The constant-style name, for JSON text. -/
  name : String
  /-- The label, for messages: a symbol, a reserved word or a constant-style name. -/
  label : String
  /-- The part its tokens play. -/
  role : Role
  deriving DecidableEq

/-- A vocabulary: an enumeration of categories with their profiles. -/
class Taxonomy (κ : Type) where
  /-- The version that the enumeration belongs to. -/
  version : Version
  /-- The categories in the order of their declaration. -/
  all : List κ
  /-- What is declared of each. -/
  profile : κ → Profile
  /-- The category of a word that is not reserved. -/
  ident : κ
  /-- The category of a character that starts no token. -/
  illegal : κ
  /-- The category of the end of the text. -/
  eof : κ
  mem_all : ∀ c, c ∈ all
  nodup_titles : (all.map fun c => (profile c).title).Nodup := by decide +kernel
  nodup_names : (all.map fun c => (profile c).name).Nodup := by decide +kernel
  nodup_labels : (all.map fun c => (profile c).label).Nodup := by decide +kernel
  nodup_spellings : (all.filterMap fun c => (profile c).role.spelling?).Nodup := by decide +kernel
  spelling_ne_empty : ∀ c ∈ all, (profile c).role.spelling? ≠ some "" := by decide +kernel
  spelling_ident : (profile ident).role.spelling? = none := by decide +kernel

/-- In a list of pairs without repeated keys, looking a key up finds its pair. -/
theorem lookup_eq_some_iff {α : Type} {l : List (String × α)} (nodup : (l.map Prod.fst).Nodup)
    {key : String} {a : α} : l.lookup key = some a ↔ (key, a) ∈ l := by
  induction l with
  | nil => simp
  | cons pair rest ih =>
    obtain ⟨s, b⟩ := pair
    rw [List.map_cons, List.nodup_cons] at nodup
    by_cases same : key = s
    · subst same
      have absent : (key, a) ∉ rest := fun member =>
        nodup.1 (List.mem_map.2 ⟨_, member, rfl⟩)
      simp [absent, eq_comm]
    · have differs : (key == s) = false := by simpa using same
      simp [List.lookup_cons, differs, same, ih nodup.2]

namespace Taxonomy

variable {κ : Type} [Taxonomy κ]

/-- The label by which messages call a category. -/
def label (c : κ) : String := (profile c).label

/-- The name by which JSON text calls a category. -/
def name (c : κ) : String := (profile c).name

/-- The name by which diagnostics call a category. -/
def title (c : κ) : String := (profile c).title

/-- The spelling of a keyword category; no other category has one. -/
def spelling? (c : κ) : Option String := (profile c).role.spelling?

/-- Identifiers have no spelling of their own. -/
theorem spelling?_ident : spelling? (ident : κ) = none := spelling_ident

/-- A keyword category is one with a spelling. -/
def isKeyword (c : κ) : Bool := (spelling? c).isSome

/-- Membership in the operators. -/
def isOperator (c : κ) : Bool := (profile c).role == .operator

/-- Membership in the delimiters. -/
def isDelimiter (c : κ) : Bool := (profile c).role == .delimiter

/-- Membership in the names and literals. -/
def isLiteral (c : κ) : Bool := (profile c).role == .literal

/-- The place of a category in the declaration. -/
def position [DecidableEq κ] (c : κ) : Nat := (all : List κ).idxOf c

/-- The category with a label. Labels are compared as they stand. -/
def ofLabel (wanted : String) : Except VocabularyError κ :=
  findLabelled all label wanted

variable (κ)

/-- The labels of all categories, in the order of declaration. -/
def labels : List String := (all : List κ).map label

/-- The categories under their names, in the order of declaration. -/
def named : List (String × κ) := (all : List κ).map fun c => (name c, c)

/-- The reserved words with their categories, in the order of declaration. -/
def reserved : List (String × κ) :=
  (all : List κ).filterMap fun c => (spelling? c).map fun s => (s, c)

end Taxonomy

end Lexicon
