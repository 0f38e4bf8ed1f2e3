import Lexicon.Config
import Lexicon.Proofs.Keyword.Classification

/-!
# What a function reports follows from its outcome

Where a function of the vocabulary reports anything, it does so as its last act: the record is one
that the answer calls for, and a failure leaves none.  `Traced.Reports` says that of a computation,
and each function that reports satisfies it for a record of its own.

## Main definitions

* `Traced.owed` — the records that an outcome calls for.
* `Traced.Reports` — a computation makes the records that its outcome calls for.
-/

namespace Lexicon

open Taxonomy Keyword

namespace Traced

variable {ε α β : Type} {x : Traced ε α} {report? : α → Option Log.Record} {r : Log.Record}

/-- The records that an outcome calls for: at most one for an answer, none for a failure. -/
def owed (report? : α → Option Log.Record) : Except ε α → List Log.Record
  | .ok a => (report? a).toList
  | .error _ => []

/-- **A computation reports its outcome**, and nothing else. -/
def Reports (x : Traced ε α) (report? : α → Option Log.Record) : Prop :=
  x.records = owed report? x.outcome

theorem Reports.exists_of_mem (reports : x.Reports report?) (h : r ∈ x.records) :
    ∃ a, x.outcome = .ok a ∧ report? a = some r := by
  rw [reports] at h
  cases outcome : x.outcome with
  | ok a =>
      rw [outcome] at h
      exact ⟨a, rfl, Option.mem_toList.1 h⟩
  | error cause =>
      rw [outcome] at h
      cases h

/-- A converted value calls for what the value did. -/
theorem Reports.map {f : α → β} {report? : β → Option Log.Record}
    (reports : x.Reports fun a => report? (f a)) : (f <$> x).Reports report? := by
  rw [Reports, records_map, outcome_map, reports]
  cases x.outcome <;> rfl

variable {f : α → β}

theorem outcome_map_of_ok {a : α} (h : x.outcome = .ok a) : (f <$> x).outcome = .ok (f a) := by
  rw [outcome_map, h]
  rfl

theorem outcome_map_of_error {cause : ε} (h : x.outcome = .error cause) :
    (f <$> x).outcome = .error cause := by
  rw [outcome_map, h]
  rfl

end Traced

/-! ## Tables -/

section Vocabulary

variable {κ : Type} [Taxonomy κ]

namespace Keyword.Table

/-- Classification reports the word and the label of its category. -/
theorem reports_classify (t : Table κ) (word : String) :
    (t.classify word).Reports fun c => some (.classified word (label c)) := by
  by_cases empty : word = ""
  · rw [classify, if_pos empty]
    rfl
  · rw [classify, if_neg empty]
    rfl

end Keyword.Table

/-- Making a token of a word reports the word and the label of the token. -/
theorem Token.reports_ofWord (word : String) :
    (Token.ofWord word : Traced Violation (Token κ)).Reports fun t =>
      some (.classified word (label t.category)) :=
  Traced.Reports.map ((Table.shared κ).reports_classify word)

end Vocabulary

namespace Config

end Config

end Lexicon
