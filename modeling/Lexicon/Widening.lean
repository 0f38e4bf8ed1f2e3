import Lexicon.Baseline
import Lexicon.Extended

/-!
# Moving categories between the versions

Every baseline category has its counterpart in the extended vocabulary. The way back is open to the
counterparts only: strings, the colon and square brackets are refused.

## Main statements

* `Extended.narrow?_eq_some_iff` — narrowing inverts widening, and nothing else narrows.
-/

namespace Lexicon

open Taxonomy

/-- The counterpart of a baseline category in the extended vocabulary. -/
def Baseline.widen : Baseline → Extended
  | .illegal => .illegal
  | .eof => .eof
  | .ident => .ident
  | .int => .int
  | .assign => .assign
  | .plus => .plus
  | .minus => .minus
  | .bang => .bang
  | .asterisk => .asterisk
  | .slash => .slash
  | .less => .less
  | .greater => .greater
  | .equal => .equal
  | .notEqual => .notEqual
  | .comma => .comma
  | .semicolon => .semicolon
  | .leftParen => .leftParen
  | .rightParen => .rightParen
  | .leftBrace => .leftBrace
  | .rightBrace => .rightBrace
  | .fnKeyword => .fnKeyword
  | .letKeyword => .letKeyword
  | .ifKeyword => .ifKeyword
  | .elseKeyword => .elseKeyword
  | .returnKeyword => .returnKeyword
  | .trueKeyword => .trueKeyword
  | .falseKeyword => .falseKeyword

/-- The baseline category of which an extended one is the counterpart, if there is one. -/
def Extended.narrow? : Extended → Option Baseline
  | .illegal => some .illegal
  | .eof => some .eof
  | .ident => some .ident
  | .int => some .int
  | .assign => some .assign
  | .plus => some .plus
  | .minus => some .minus
  | .bang => some .bang
  | .asterisk => some .asterisk
  | .slash => some .slash
  | .less => some .less
  | .greater => some .greater
  | .equal => some .equal
  | .notEqual => some .notEqual
  | .comma => some .comma
  | .semicolon => some .semicolon
  | .leftParen => some .leftParen
  | .rightParen => some .rightParen
  | .leftBrace => some .leftBrace
  | .rightBrace => some .rightBrace
  | .fnKeyword => some .fnKeyword
  | .letKeyword => some .letKeyword
  | .ifKeyword => some .ifKeyword
  | .elseKeyword => some .elseKeyword
  | .returnKeyword => some .returnKeyword
  | .trueKeyword => some .trueKeyword
  | .falseKeyword => some .falseKeyword
  | .string | .colon | .leftBracket | .rightBracket => none

/-- The baseline category of an extended one; a category of the extended vocabulary alone is
refused by its label. -/
def Extended.narrow (c : Extended) : Except VocabularyError Baseline :=
  match c.narrow? with
  | some b => .ok b
  | none => .error (.notInBaseline (label c))

@[simp]
theorem Extended.narrow?_widen (b : Baseline) : b.widen.narrow? = some b := by
  cases b <;> rfl

/-- Narrowing inverts widening, and nothing else narrows. -/
theorem Extended.narrow?_eq_some_iff {c : Extended} {b : Baseline} :
    c.narrow? = some b ↔ b.widen = c := by
  constructor
  · intro h
    cases c <;> cases h <;> rfl
  · rintro rfl
    exact narrow?_widen b

theorem Extended.narrow_eq_ok_iff {c : Extended} {b : Baseline} :
    c.narrow = .ok b ↔ b.widen = c := by
  rw [← narrow?_eq_some_iff, narrow]
  cases c.narrow? with
  | none => simp
  | some b => simp

theorem Baseline.widen_injective {a b : Baseline} (h : a.widen = b.widen) : a = b := by
  have := Extended.narrow?_widen a
  rw [h, Extended.narrow?_widen, Option.some.injEq] at this
  exact this.symm

/-- A category keeps its profile under widening: widening changes no text that mentions it. -/
@[simp]
theorem Baseline.profile_widen (b : Baseline) : b.widen.profile = b.profile := by
  cases b <;> rfl

/-- In particular its name in JSON text. -/
@[simp]
theorem Baseline.name_widen (b : Baseline) : name b.widen = name b :=
  congrArg Profile.name b.profile_widen

@[simp]
theorem Baseline.label_widen (b : Baseline) : label b.widen = label b :=
  congrArg Profile.label b.profile_widen

@[simp]
theorem Baseline.spelling?_widen (b : Baseline) : spelling? b.widen = spelling? b :=
  congrArg (fun p => p.role.spelling?) b.profile_widen

/-- Identifiers widen to identifiers, and nothing else does. -/
theorem Baseline.widen_eq_ident_iff {b : Baseline} :
    b.widen = Taxonomy.ident ↔ b = Taxonomy.ident :=
  ⟨fun h => widen_injective h, congrArg widen⟩

end Lexicon
