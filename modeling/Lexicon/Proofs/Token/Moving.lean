import Lexicon.Proofs.Keyword.Widening
import Lexicon.Session

/-!
# Moving tokens between the versions

A token can be moved up and down between the two versions any number of times, and nobody who looks
at it can tell: it says the same after every move.  What a token says is collected in `Saying`, and
each part of it is computed from the profile of the category and from the lexeme, apart from
well-formedness, which also asks the table of reserved words.  So one move keeps the saying
(`saying_apply`), and by induction every run of moves does (`saying_of_mem_trail`).

A move up widens the token, and a move down leads to the only one that widens to it
(`Move.narrow_apply_eq_iff`); a token that the baseline refuses stays where it is.  A session
performs such moves on its newest token (`Session.run_moves`).

## Main definitions

* `Saying`, `Token.saying` — what a token says.
* `Move`, `Move.trail` — a move, and the tokens that a run of moves passes through.
-/

namespace Lexicon

open Taxonomy Keyword

/-! ## What a token says -/

/-- What a token says, in whichever version it is. -/
structure Saying where
  lexeme : String
  label : String
  display : String
  json : String
  isKeyword : Bool
  isWellFormed : Bool

/-- The saying of a token. -/
def Token.saying {κ : Type} [Taxonomy κ] [DecidableEq κ] (t : Token κ) : Saying where
  lexeme := t.lexeme
  label := label t.category
  display := t.display
  json := t.json
  isKeyword := t.isKeyword
  isWellFormed := t.isWellFormed

/-- The saying of a token of either version. -/
def AnyToken.saying : AnyToken → Saying
  | .baseline t => t.saying
  | .extended t => t.saying

namespace Token

theorem display_widen (t : Token Baseline) : t.widen.display = t.display := by
  rw [display, display, widen, Baseline.label_widen]

theorem json_widen (t : Token Baseline) : t.widen.json = t.json := by
  rw [json, json, encode, encode, widen, Baseline.name_widen]

theorem isKeyword_widen (t : Token Baseline) : t.widen.isKeyword = t.isKeyword := by
  rw [isKeyword, isKeyword, widen, Taxonomy.isKeyword, Taxonomy.isKeyword,
    Baseline.spelling?_widen]

/-- Both versions ask the same of a token, because they reserve the same words. -/
theorem isWellFormed_widen (t : Token Baseline) : t.widen.isWellFormed = t.isWellFormed := by
  rw [isWellFormed, isWellFormed, widen, Baseline.spelling?_widen, Table.shared_widen]
  simp only [Table.contains_convert, Baseline.widen_eq_ident_iff]

/-- **Widening keeps the saying.** -/
theorem saying_widen (t : Token Baseline) : t.widen.saying = t.saying := by
  rw [saying, saying, display_widen, json_widen, isKeyword_widen, isWellFormed_widen, widen,
    Baseline.label_widen]

/-! ## Narrowing -/

theorem widen_injective {a b : Token Baseline} (h : a.widen = b.widen) : a = b := by
  cases a
  cases b
  rw [widen, widen, mk.injEq] at h
  rw [mk.injEq]
  exact ⟨Baseline.widen_injective h.1, h.2⟩

/-- Narrowing a token inverts widening it, and nothing else narrows. -/
theorem narrow_eq_ok_iff {e : Token Extended} {b : Token Baseline} :
    e.narrow = .ok b ↔ b.widen = e := by
  constructor
  · intro narrowed
    rw [narrow] at narrowed
    cases category : e.category.narrow with
    | ok c =>
        rw [category] at narrowed
        cases narrowed
        rw [widen, Extended.narrow_eq_ok_iff.1 category]
    | error cause =>
        rw [category] at narrowed
        cases narrowed
  · rintro rfl
    have category : b.category.widen.narrow = .ok b.category := Extended.narrow_eq_ok_iff.2 rfl
    rw [narrow, widen, category]

/-- A token that the baseline lacks is refused by its label. -/
theorem narrow_of_not_widen {e : Token Extended} (h : ¬ ∃ b : Token Baseline, b.widen = e) :
    e.narrow = .error (.notInBaseline (label e.category)) := by
  have absent : e.category.narrow? = none := by
    cases found : e.category.narrow? with
    | none => rfl
    | some c =>
        have counterpart := Extended.narrow?_eq_some_iff.1 found
        exact absurd ⟨⟨c, e.lexeme⟩, by rw [widen, counterpart]⟩ h
  rw [narrow, Extended.narrow, absent]

end Token

/-! ## Runs of moves -/

theorem AnyToken.saying_widen (t : AnyToken) : t.widen.saying = t.saying := by
  cases t with
  | baseline t => exact t.saying_widen
  | extended t => rfl

theorem AnyToken.saying_of_narrow {t u : AnyToken} (h : t.narrow = .ok u) :
    u.saying = t.saying := by
  cases t with
  | baseline t =>
      cases h
      rfl
  | extended e =>
      rw [narrow] at h
      cases narrowed : e.narrow with
      | ok b =>
          rw [narrowed] at h
          cases h
          rw [← Token.narrow_eq_ok_iff.1 narrowed]
          exact b.saying_widen.symm
      | error cause =>
          rw [narrowed] at h
          cases h

/-- A move of a token, up or down. -/
inductive Move where
  | widen | narrow

namespace Move

/-- The token after a move. -/
def apply (t : AnyToken) : Move → AnyToken
  | .widen => t.widen
  | .narrow =>
    match t.narrow with
    | .ok u => u
    | .error _ => t

/-- A move down narrows an extended token that can be narrowed, -/
theorem narrow_apply_of_ok {e : Token Extended} {b : Token Baseline} (h : e.narrow = .ok b) :
    Move.narrow.apply (.extended e) = .baseline b := by
  rw [apply, AnyToken.narrow, h]

/-- and leaves one that is refused. -/
theorem narrow_apply_of_error {e : Token Extended} {cause : VocabularyError}
    (h : e.narrow = .error cause) : Move.narrow.apply (.extended e) = .extended e := by
  rw [apply, AnyToken.narrow, h]

/-- **A move down** leads to the only baseline token that widens to the extended one. -/
theorem narrow_apply_eq_iff {e : Token Extended} {b : Token Baseline} :
    Move.narrow.apply (.extended e) = .baseline b ↔ b.widen = e := by
  rw [← Token.narrow_eq_ok_iff]
  constructor
  · intro moved
    cases narrowed : e.narrow with
    | ok b' =>
        rw [narrow_apply_of_ok narrowed] at moved
        cases moved
        rfl
    | error cause =>
        rw [narrow_apply_of_error narrowed] at moved
        cases moved
  · exact narrow_apply_of_ok

/-- The tokens after each move of a run. -/
def trail (t : AnyToken) : List Move → List AnyToken
  | [] => []
  | m :: moves => m.apply t :: trail (m.apply t) moves

/-- **One move** keeps the saying. -/
theorem saying_apply (m : Move) (t : AnyToken) : (m.apply t).saying = t.saying := by
  cases m with
  | widen => exact t.saying_widen
  | narrow =>
      rw [apply]
      cases narrowed : t.narrow with
      | ok u => exact AnyToken.saying_of_narrow narrowed
      | error cause => rfl

/-- **A run of moves** keeps the saying, at every token that it passes. -/
theorem saying_of_mem_trail {moves : List Move} {t u : AnyToken} (h : u ∈ trail t moves) :
    u.saying = t.saying := by
  induction moves generalizing t with
  | nil => cases h
  | cons m moves ih =>
      rw [trail, List.mem_cons] at h
      rcases h with rfl | later
      · exact saying_apply m t
      · rw [ih later, saying_apply]

/-- The step of a session that makes the move. -/
def step : Move → Session.Step
  | .widen => .widen
  | .narrow => .narrow

end Move

namespace Session

variable {s : Session} {t : AnyToken} {rest : List AnyToken}

/-- A session makes a move on its newest token. -/
theorem advance_move (h : s.tokens = t :: rest) (m : Move) :
    (Script.advance perform s m.step).state = { s with tokens := m.apply t :: rest } := by
  obtain ⟨config, tokens⟩ := s
  cases h
  cases m with
  | widen => rfl
  | narrow =>
      have performed : perform ⟨config, t :: rest⟩ .narrow =
          ((Traced.ofExcept t.narrow).mapError .vocabulary >>= fun u =>
            pure (.token (some u), ⟨config, u :: rest⟩)) := rfl
      rw [Script.advance, Move.step, performed, Move.apply]
      -- A refusal leaves the session, and so the token, as it was.
      cases t.narrow with
      | ok u => rfl
      | error cause => rfl

/-- The newest tokens of a session that makes a run of moves are those of the trail. -/
theorem run_moves (h : s.tokens = t :: rest) (moves : List Move) :
    (Script.run perform s (moves.map Move.step)).1.map (fun entry => entry.state.tokens) =
      (Move.trail t moves).map fun u => u :: rest := by
  induction moves generalizing s t with
  | nil => rfl
  | cons m moves ih =>
      have moved := advance_move h m
      rw [List.map_cons, Script.run, Move.trail, List.map_cons, List.map_cons, moved]
      rw [ih rfl]

end Session

/-- **Moving tokens keeps what they say**, and narrowing is the inverse of widening. -/
structure MovingKeepsSaying : Prop where
  /-- After every move a token says what it said at the start. -/
  every_move : ∀ t moves, ∀ u ∈ Move.trail t moves, u.saying = t.saying
  /-- A move up widens a baseline token and leaves an extended one. -/
  up : ∀ b : Token Baseline, Move.widen.apply (.baseline b) = .extended b.widen
  top : ∀ e : Token Extended, Move.widen.apply (.extended e) = .extended e
  /-- A move down takes an extended token to the one that widens to it, if there is one, and leaves
  any other token. -/
  down_iff : ∀ (e : Token Extended) b,
    Move.narrow.apply (.extended e) = .baseline b ↔ b.widen = e
  stays : ∀ e : Token Extended, (¬ ∃ b : Token Baseline, b.widen = e) →
    Move.narrow.apply (.extended e) = .extended e
  bottom : ∀ b : Token Baseline, Move.narrow.apply (.baseline b) = .baseline b
  /-- A session makes these moves on its newest token. -/
  in_session : ∀ (s : Session) t rest, s.tokens = t :: rest → ∀ moves,
    (Script.run Session.perform s (moves.map Move.step)).1.map (fun entry => entry.state.tokens) =
      (Move.trail t moves).map fun u => u :: rest
  /-- A token narrows exactly if it is a widened one. -/
  narrows_iff : ∀ e : Token Extended,
    (∃ b, e.narrow = .ok b) ↔ ∃ b : Token Baseline, b.widen = e
  /-- It narrows to the only token that widens to it. -/
  only : ∀ (e : Token Extended) b, e.narrow = .ok b → ∀ b' : Token Baseline, b'.widen = e → b' = b
  /-- Any other is refused by its own label. -/
  refused : ∀ e : Token Extended, (¬ ∃ b : Token Baseline, b.widen = e) →
    e.narrow = .error (.notInBaseline (label e.category))
  narrow_widen : ∀ b : Token Baseline, b.widen.narrow = .ok b
  widen_narrow : ∀ (e : Token Extended) b, e.narrow = .ok b → b.widen = e

/-- Moving tokens between the versions keeps what they say, over any run of moves. -/
theorem moving_keeps_saying : MovingKeepsSaying where
  every_move _ _ _ passed := Move.saying_of_mem_trail passed
  up _ := rfl
  top _ := rfl
  down_iff _ _ := Move.narrow_apply_eq_iff
  stays _ lacking := Move.narrow_apply_of_error (Token.narrow_of_not_widen lacking)
  bottom _ := rfl
  in_session _ _ _ newest := Session.run_moves newest
  narrows_iff e := exists_congr fun b => Token.narrow_eq_ok_iff
  only e b narrowed b' widened := by
    rw [Token.narrow_eq_ok_iff, ← widened] at narrowed
    exact (Token.widen_injective narrowed).symm
  refused _ := Token.narrow_of_not_widen
  narrow_widen _ := Token.narrow_eq_ok_iff.2 rfl
  widen_narrow _ _ := Token.narrow_eq_ok_iff.1

/-- A keyword that goes up, down and up again says the same; a bracket is refused. -/
theorem moves_of_return_and_bracket :
    (AnyToken.extended ⟨.returnKeyword, "return"⟩ ∈
        Move.trail (.baseline ⟨.returnKeyword, "return"⟩) [.widen, .narrow, .widen] ∧
      (AnyToken.extended ⟨.returnKeyword, "return"⟩).saying =
        (AnyToken.baseline ⟨.returnKeyword, "return"⟩).saying) ∧
    (¬ ∃ b : Token Baseline, b.widen = ⟨.leftBracket, "["⟩) ∧
      (Token.mk Extended.leftBracket "[").narrow = .error (.notInBaseline "[") := by
  have up : AnyToken.extended ⟨.returnKeyword, "return"⟩ ∈
      Move.trail (.baseline ⟨.returnKeyword, "return"⟩) [.widen, .narrow, .widen] := by decide
  have lacking : ¬ ∃ b : Token Baseline, b.widen = ⟨.leftBracket, "["⟩ := by
    rintro ⟨⟨c, lexeme⟩, same⟩
    cases c <;> cases same
  refine ⟨⟨up, ?_⟩, lacking, ?_⟩
  · exact moving_keeps_saying.every_move _ _ _ up
  · exact moving_keeps_saying.refused _ lacking

end Lexicon
