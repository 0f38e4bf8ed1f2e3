import Lexicon.Proofs.Json.Literals

/-!
# Written text is in the grammar

What is written has exactly one reading, and this module says which: a literal decodes to the string
it was written for, and arrays and objects have the parts that were put into them.  The statements
are about the grammar and not about a reader, so whatever recognises the grammar reads back what was
written.

A character is written as itself, as a letter after a backslash, or as its code
(`spells_escape`).  The code is only ever that of a control character, which is no surrogate and has
two zeros in front.
-/

namespace Lexicon.Json

variable {c : Char} {s t : List Char}

/-! ## String literals -/

theorem hexDigit?_digitChar : ∀ d < 16, hexDigit? (Nat.digitChar d) = some d := by decide

/-- The code of a control character, as it is written. -/
theorem isHex_control {n : Nat} (h : n < controlEnd) :
    IsHex ['0', '0', Nat.digitChar (n / 16), Nat.digitChar (n % 16)] n := by
  have below : n < 32 := h
  have high := hexDigit?_digitChar (n / 16) (by omega)
  have low := hexDigit?_digitChar (n % 16) (by omega)
  have zero : hexDigit? '0' = some 0 := by decide
  have value : ((0 * 16 + 0) * 16 + n / 16) * 16 + n % 16 = n := by omega
  refine ⟨_, _, _, _, rfl, ?_⟩
  rw [hexDigits?, zero, high, low]
  exact congrArg some value

/-- A character without a letter of its own is neither the quote nor the backslash. -/
theorem ne_of_lookup (h : letterEscapes.lookup c = none) : c ≠ '"' ∧ c ≠ '\\' := by
  constructor
  · rintro rfl
    cases h
  · rintro rfl
    cases h

/-- **One written character** spells itself, whatever follows. -/
theorem spells_escape (c : Char) (rest : Spells s t) : Spells (escape c ++ s) (c :: t) := by
  unfold escape
  split
  · next l known =>
    obtain ⟨before, after, split, -⟩ := List.lookup_eq_some_iff.1 known
    have listed : (c, l) ∈ letterEscapes := by rw [split]; simp
    exact .escape (.letter (letter_of_mem listed)) rest
  · next unknown =>
    split
    · next control =>
      have below : c.toNat < 0x20 := control
      have code : Escape ('u' :: _) (Char.ofNat c.toNat) :=
        .code (isHex_control control) (.inl (by omega))
      rw [Char.ofNat_toNat] at code
      exact .escape code rest
    · next notControl =>
      obtain ⟨notQuote, notBackslash⟩ := ne_of_lookup unknown
      exact .plain ⟨notQuote, notBackslash, Nat.le_of_not_lt notControl⟩ rest

theorem spells_flatMap_escape (t : List Char) : Spells (t.flatMap escape) t := by
  induction t with
  | nil => exact .nil
  | cons c t ih =>
      rw [List.flatMap_cons]
      exact spells_escape c ih

/-- A written literal decodes to the string it was written for. -/
theorem isLiteral_literal (text : String) : IsLiteral (literal text) text :=
  ⟨_, rfl, spells_flatMap_escape text.toList⟩

/-! ## Arrays and objects -/

section Brackets

variable {α : Type} {Item : List Char → α → Prop} {v : List Char} {a : α}

/-- Where nothing is written around an item, its blanks are none. -/
theorem spaced_of_item (item : Item v a) : Spaced Item v a :=
  ⟨[], v, [], by simp, blanks_nil, item, blanks_nil⟩

/-- Items with commas between them, written without blanks. -/
theorem enclosed_of_items (b : Bracket) {vs : List (List Char)} {as : List α}
    (items : List.Forall₂ Item vs as) :
    Enclosed b Item (b.opening :: (List.intercalate [','] vs ++ [b.close])) as := by
  cases items with
  | nil => exact .hollow blanks_nil
  | cons item items =>
      refine .filled (List.cons_ne_nil _ _) ?_
      exact (List.Forall₂.cons item items).imp fun _ _ => spaced_of_item

end Brackets

theorem isArray_array (elements : List (List Char)) : IsArray (array elements) elements :=
  enclosed_of_items .square (List.forall₂_refl elements)

theorem isObject_object {ms : List (List Char)} {members : List (String × List Char)}
    (written : List.Forall₂ IsMember ms members) : IsObject (object ms) members :=
  enclosed_of_items .curly written

theorem isMember_member (key : String) (v : List Char) : IsMember (member key v) (key, v) :=
  ⟨literal key, [], [], by simp [member], isLiteral_literal key, blanks_nil, blanks_nil⟩

end Lexicon.Json
