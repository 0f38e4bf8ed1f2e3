import Lexicon.Text.Blank
import Mathlib.Data.List.DropRight

/-!
# Trimming

A text is its trimmed part with white space before and after it, and the trimmed part neither starts
nor ends with white space.  These two facts determine it (`stripBlanks_eq_iff`): whatever is padded
on either side, the trimmed part comes back.  A text that is compared after trimming is therefore
compared up to padding (`trim_eq_iff`).

White space is told here by its ranges, and not by the look-up that stops early (`isBlank_iff`).
-/

namespace Lexicon.Text

variable {s t w w' : List Char} {c : Char}

/-- A character in one of the ranges of White_Space. -/
def WhiteSpace (c : Char) : Prop :=
  ∃ range ∈ whiteSpace, range.1 ≤ c.toNat ∧ c.toNat ≤ range.2

theorem isBlank_iff : isBlank c = true ↔ WhiteSpace c :=
  Ranges.contains_iff (by decide) c.toNat

/-- Any amount of white space. -/
def Padding (w : List Char) : Prop := ∀ c ∈ w, WhiteSpace c

/-- A text that no white space starts or ends. -/
structure Trimmed (t : List Char) : Prop where
  head : ∀ c, t.head? = some c → ¬ WhiteSpace c
  last : ∀ c, t.getLast? = some c → ¬ WhiteSpace c

theorem Padding.isBlank (h : Padding w) : ∀ c ∈ w, isBlank c = true :=
  fun c member => isBlank_iff.2 (h c member)

/-- Trimming drops from the left and then from the right. -/
theorem stripBlanks_eq_rdropWhile (s : List Char) :
    stripBlanks s = (s.dropWhile isBlank).rdropWhile isBlank :=
  rfl

/-! ## What is dropped and what is left -/

/-- Only white space is dropped. -/
theorem exists_padding (s : List Char) :
    ∃ w w', Padding w ∧ Padding w' ∧ s = w ++ (stripBlanks s ++ w') := by
  refine ⟨s.takeWhile isBlank, (s.dropWhile isBlank).rtakeWhile isBlank, ?_, ?_, ?_⟩
  · intro c member
    exact isBlank_iff.1 (List.mem_takeWhile_imp member)
  · intro c member
    exact isBlank_iff.1 (List.mem_rtakeWhile_imp member)
  · rw [stripBlanks_eq_rdropWhile, List.rdropWhile_append_rtakeWhile,
      List.takeWhile_append_dropWhile]

/-- No white space is left at the ends. -/
theorem trimmed_stripBlanks (s : List Char) : Trimmed (stripBlanks s) where
  head := by
    intro c first
    -- What is dropped from the right leaves the first character, which stopped the left.
    have front : stripBlanks s <+: s.dropWhile isBlank := List.rdropWhile_prefix _ _
    obtain ⟨rest, whole⟩ := front
    have stops := List.head?_dropWhile_not isBlank s
    rw [← whole, List.head?_append, first] at stops
    rw [← isBlank_iff, Bool.not_eq_true]
    exact stops
  last := by
    intro c last
    have nonempty : stripBlanks s ≠ [] := by
      intro empty
      rw [empty] at last
      cases last
    rw [List.getLast?_eq_some_getLast nonempty, Option.some.injEq] at last
    rw [← isBlank_iff, ← last]
    exact List.rdropWhile_last_not _ _ nonempty

/-- **Padding comes off** on both sides of a trimmed text. -/
theorem stripBlanks_padded (trimmed : Trimmed t) (before : Padding w) (after : Padding w') :
    stripBlanks (w ++ (t ++ w')) = t := by
  rw [stripBlanks, List.dropWhile_append_of_pos before.isBlank]
  cases t with
  | nil => simp [List.dropWhile_eq_nil_iff.2 after.isBlank]
  | cons c r =>
      have kept : isBlank c ≠ true := fun blank => trimmed.head c rfl (isBlank_iff.1 blank)
      have behind : ∀ c ∈ w'.reverse, isBlank c = true :=
        fun c member => after.isBlank c (List.mem_reverse.1 member)
      have rest : (c :: r).rdropWhile isBlank = c :: r := by
        refine List.rdropWhile_eq_self_iff.2 fun nonempty blank => ?_
        exact trimmed.last _ (List.getLast?_eq_some_getLast nonempty) (isBlank_iff.1 blank)
      rw [List.cons_append, List.dropWhile_cons_of_neg kept, ← List.cons_append,
        List.reverse_append, List.dropWhile_append_of_pos behind]
      exact rest

/-- **Trimming, told by its result**: the text without white space at its ends that is left when
white space is taken off both sides. -/
theorem stripBlanks_eq_iff :
    stripBlanks s = t ↔
      Trimmed t ∧ ∃ w w', Padding w ∧ Padding w' ∧ s = w ++ (t ++ w') := by
  constructor
  · rintro rfl
    exact ⟨trimmed_stripBlanks s, exists_padding s⟩
  · rintro ⟨trimmed, w, w', before, after, rfl⟩
    exact stripBlanks_padded trimmed before after

/-- Comparing with a trimmed text after trimming is comparing up to padding. -/
theorem trim_eq_iff {text name : String} (trimmed : Trimmed name.toList) :
    trim text = name ↔
      ∃ w w', Padding w ∧ Padding w' ∧ text.toList = w ++ (name.toList ++ w') := by
  rw [trim, ← String.toList_inj, String.toList_ofList, stripBlanks_eq_iff]
  exact and_iff_right trimmed

end Lexicon.Text
