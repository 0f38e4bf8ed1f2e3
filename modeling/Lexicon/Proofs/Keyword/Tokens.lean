import Lexicon.Proofs.Keyword.Checking
import Lexicon.Proofs.Token.WellFormed

/-!
# The tokens that checked tables make

Three lists of words meet here: the list that a table was checked from, the table itself, and the
reserved words, by which a token is judged.  A checked table agrees with the reserved words wherever
it answers at all (`get?_shared_of_checked`), so what it calls a keyword is one, and well formed.

It may still know fewer words.  A reserved word that the list omits is taken for an identifier, and
as the token of an identifier it is not well formed.  That is the only way to an ill-formed token,
and `MakesToken` states it as an equivalence.
-/

namespace Lexicon.Keyword.Table

open Taxonomy

variable {κ : Type} [Taxonomy κ] {entries : List (String × κ)} {t : Table κ} {word : String}

/-- A checked table agrees with the shared one on the words that it lists. -/
theorem get?_shared_of_checked (h : checked entries = .ok t) {c : κ}
    (listed : t.get? word = some c) : (shared κ).get? word = some c := by
  obtain ⟨own, rfl⟩ := checked_eq_ok_iff.1 h
  exact get?_shared_eq_some_iff.2 (own _ (get?_eq_some_iff.1 listed))

/-- **What a table, checked from `entries`, makes of a word**: the category `c` and a token. -/
structure MakesToken [DecidableEq κ] (t : Table κ) (entries : List (String × κ)) (word : String)
    (c : κ) : Prop where
  answer : (t.classify word).outcome = .ok c
  /-- A listed word has the category that the shared table gives it. -/
  of_listed : word ∈ entries.map Prod.fst → (Lexicon.classify κ word).outcome = .ok c
  /-- Any other word is an identifier. -/
  of_not_listed : word ∉ entries.map Prod.fst → c = ident
  /-- A keyword token is well formed. -/
  keyword : (Token.mk c word).isKeyword = true → (Token.mk c word).isWellFormed = true
  /-- A token that is not well formed comes of a reserved word that the list omits. -/
  omitted : (Token.mk c word).isWellFormed = false ↔
    (shared κ).contains word = true ∧ word ∉ entries.map Prod.fst

/-- A listed word is made into a well-formed keyword token. -/
theorem makesToken_of_listed [DecidableEq κ] (h : checked entries = .ok t) (hw : word ≠ "") {c : κ}
    (found : t.get? word = some c) : MakesToken t entries word c := by
  have reserved : (shared κ).get? word = some c := get?_shared_of_checked h found
  have wellFormed : (Token.mk c word).isWellFormed = true :=
    (Token.isWellFormed_iff_of_keyword (get?_shared_eq_some_iff.1 reserved)).2 rfl
  have listed : word ∈ entries.map Prod.fst := by
    rw [← (checked_eq_ok_iff.1 h).2]
    exact mem_map_fst_of_get? found
  refine ⟨?answer, fun _ => ?of_listed, fun unlisted => absurd listed unlisted,
    fun _ => wellFormed, ?omitted⟩
  case answer => rw [outcome_classify_of_ne t hw, found, Option.getD_some]
  case of_listed => rw [Lexicon.classify, outcome_classify_of_ne _ hw, reserved, Option.getD_some]
  case omitted => simp [wellFormed, listed]

/-- Any other word is made into an identifier token, which is judged by the reserved words. -/
theorem makesToken_of_not_listed [DecidableEq κ] (hw : word ≠ "") (absent : t.get? word = none)
    (unlisted : word ∉ entries.map Prod.fst) : MakesToken t entries word ident := by
  have judged := Token.isWellFormed_iff_of_ident (t := Token.mk (ident : κ) word) rfl
  refine ⟨?answer, fun listed => absurd listed unlisted, fun _ => rfl, fun keyword => ?keyword,
    ?omitted⟩
  case answer => rw [outcome_classify_of_ne t hw, absent, Option.getD_none]
  case keyword =>
    rw [Token.isKeyword, isKeyword, spelling?_ident] at keyword
    cases keyword
  case omitted =>
    rw [← Bool.not_eq_true, judged]
    simp [hw, unlisted]

/-- Every word with a character is made into one or the other. -/
theorem makesToken_of_checked [DecidableEq κ] (h : checked entries = .ok t) (hw : word ≠ "") :
    ∃ c, MakesToken t entries word c := by
  cases answer : t.get? word with
  | some c => exact ⟨c, makesToken_of_listed h hw answer⟩
  | none =>
      have unlisted := get?_eq_none_iff.1 answer
      rw [(checked_eq_ok_iff.1 h).2] at unlisted
      exact ⟨ident, makesToken_of_not_listed hw answer unlisted⟩

/-- **What checking stands for**: which lists are accepted, and what their tables make of words. -/
structure StandsForTokens [DecidableEq κ] (entries : List (String × κ)) : Prop where
  /-- A list is accepted if its spellings differ and its entries are well-formed keyword tokens. -/
  accepted_iff : (∃ t, checked entries = .ok t) ↔
    (entries.map Prod.fst).Nodup ∧ ∀ s c, (s, c) ∈ entries →
      (Token.mk c s).isKeyword = true ∧ (Token.mk c s).isWellFormed = true
  makes : ∀ t, checked entries = .ok t → ∀ word, word ≠ "" → ∃ c, MakesToken t entries word c

/-- Checking stands for well-formed keyword tokens, on every list. -/
theorem checking_stands_for_tokens [DecidableEq κ] (entries : List (String × κ)) :
    StandsForTokens entries where
  accepted_iff := by
    simp only [exists_checked_iff, Token.isKeyword_and_isWellFormed_iff, Prod.forall]
    exact and_comm
  makes _ accepted _ hw := makesToken_of_checked accepted hw

/-- A table of one keyword takes another reserved word for an identifier, whose token is not well
formed. -/
theorem table_of_let_on_fn :
    checked [("let", Baseline.letKeyword)] = .ok ⟨[("let", .letKeyword)], by decide⟩ ∧
      ∃ c, MakesToken ⟨[("let", Baseline.letKeyword)], by decide⟩ [("let", .letKeyword)] "fn" c ∧
        (Token.mk c "fn").isWellFormed = false := by
  have accepted : checked [("let", Baseline.letKeyword)] =
      .ok ⟨[("let", .letKeyword)], by decide⟩ := rfl
  obtain ⟨c, made⟩ := (checking_stands_for_tokens _).makes _ accepted "fn" (by decide)
  exact ⟨accepted, c, made, made.omitted.2 ⟨rfl, by decide⟩⟩

end Lexicon.Keyword.Table
