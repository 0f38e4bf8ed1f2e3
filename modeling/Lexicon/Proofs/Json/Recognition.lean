import Lexicon.Json.Container
import Lexicon.Proofs.Json.Skipping

/-!
# Readers and what they recognise

`Recognises reader L` says that a reader takes off the front of a text exactly the values of the
language `L`, with the blanks before them, and leaves what follows.  For a whole text this is an
equivalence (`Recognises.decode_eq_ok_iff`): the text is read as `a` if and only if, blanks aside,
it is a value that `L` gives to `a`.

Each way to make a reader has its language, built from the languages of its parts: strings, names,
skipped values, arrays of equal items, and records in their two forms.  A reader of a vocabulary is
then recognised by putting these together, with no look at how it reads.

### Completeness needs an end, soundness needs none

A value is read only where it may end (`Ends`), since a numeral could go on.  Inside brackets this
is always so, because what follows an item is a blank, a comma or the closing bracket
(`Contents.ends`); therefore the statements about contents of brackets are equivalences again.
-/

namespace Lexicon.Json

variable {α β σ ι : Type} {s r : List Char}

/-- The values that a language has, each with what it stands for. -/
abbrev Language (α : Type) := List Char → α → Prop

/-- **A reader recognises a language.** -/
structure Recognises (reader : Reader α) (L : Language α) : Prop where
  /-- A value starts with neither a blank nor a closing bracket. -/
  starts : ∀ {v a}, L v a → Starts v
  /-- What is read is a value of the language. -/
  sound : ∀ {s a r}, reader.read s = .ok (a, r) →
    ∃ w v, Blanks w ∧ L v a ∧ s = w ++ (v ++ r)
  /-- Every value of the language is read where it may end. -/
  complete : ∀ {w v a r}, Blanks w → L v a → Ends r → reader.read (w ++ (v ++ r)) = .ok (a, r)

/-- **A whole text** is read as a value exactly if it is one of the language, blanks aside. -/
theorem Recognises.decode_eq_ok_iff {reader : Reader α} {L : Language α}
    (h : Recognises reader L) {text : String} {a : α} :
    decode reader text = .ok a ↔
      ∃ w v w', Blanks w ∧ L v a ∧ Blanks w' ∧ text.toList = w ++ (v ++ w') := by
  constructor
  · intro decoded
    rw [decode] at decoded
    split at decoded
    · cases decoded
    · next b r read =>
      split at decoded
      · next nothingLeft =>
        cases decoded
        obtain ⟨w, v, blanks, value, split⟩ := h.sound read
        exact ⟨w, v, r, blanks, value, skipBlank_eq_nil_iff.1 nothingLeft, split⟩
      · cases decoded
  · rintro ⟨w, v, w', blanks, value, blanks', split⟩
    have ends : Ends w' := by simpa using blanks'.ends_append ends_nil
    rw [decode]
    simp only [split, h.complete blanks value ends, skipBlank_eq_nil_iff.2 blanks', if_true]
    rfl

theorem Recognises.map {reader : Reader α} {L : Language α} (h : Recognises reader L)
    (f : α → β) : Recognises (reader.map f) fun v b => ∃ a, L v a ∧ f a = b where
  starts := by
    rintro v b ⟨a, value, -⟩
    exact h.starts value
  sound := by
    intro s b r mapped
    rw [Reader.map] at mapped
    dsimp only at mapped
    split at mapped
    · next a t read =>
      cases mapped
      obtain ⟨w, v, blanks, value, split⟩ := h.sound read
      exact ⟨w, v, blanks, ⟨a, value, rfl⟩, split⟩
    · cases mapped
  complete := by
    rintro w v b r blanks ⟨a, value, rfl⟩ ends
    rw [Reader.map]
    simp only [h.complete blanks value ends]

/-! ## Strings, names and skipped values -/

theorem isBlank_quote : isBlank '"' = false := by decide

theorem isBlank_brace : isBlank '{' = false := by decide

theorem starts_of_isLiteral {v : List Char} {text : String} (h : IsLiteral v text) : Starts v := by
  obtain ⟨body, rfl, -⟩ := h
  exact starts_cons _ (by decide)

/-- A string is any literal that decodes. -/
theorem recognises_string : Recognises string IsLiteral where
  starts := starts_of_isLiteral
  sound := by
    intro s text r read
    obtain ⟨w, c, t, blanks, rfl, taken⟩ := exists_of_skipBlank read
    split at taken
    · next quote =>
      subst quote
      obtain ⟨v, literal, split⟩ := readString_eq_ok_iff.1 taken
      exact ⟨w, v, blanks, literal, by rw [split]⟩
    · exact absurd taken mistyped_ne_ok
  complete := by
    rintro w v text r blanks ⟨body, rfl, spells⟩ -
    have read : readString [] (body ++ '"' :: r) = .ok (text, r) :=
      readString_eq_ok_iff.2 ⟨_, ⟨body, rfl, spells⟩, by simp⟩
    simp [string, skipBlank_append blanks isBlank_quote, read]

/-- A skipped value is any value. -/
theorem recognises_skipped : Recognises skipped fun v _ => IsValue v where
  starts := starts_of_isValue
  sound := by
    intro s a r read
    rw [skipped] at read
    dsimp only at read
    split at read
    · next t taken =>
      cases read
      obtain ⟨w, v, u, blanks, value, split, closes⟩ := skips_of_skip taken
      cases closes
      exact ⟨w, v, blanks, value, split⟩
    · cases read
  complete := by
    intro w v a r blanks value ends
    rw [skipped]
    simp only [passed_of_isValue value [] w r blanks ends, skip_after_nil]

section Choice

variable {options : List (String × α)} {a : α}

theorem pick_eq_ok_iff :
    pick options s = .ok (a, r) ↔
      ∃ name k, options.lookup name = some a ∧ IsLiteral k name ∧ '"' :: s = k ++ r := by
  constructor
  · intro h
    unfold pick at h
    split at h
    · cases h
    · next name t read =>
      split at h
      · next known =>
        cases h
        obtain ⟨k, literal, split⟩ := readString_eq_ok_iff.1 read
        exact ⟨name, k, known, literal, split⟩
      · cases h
  · rintro ⟨name, k, known, literal, split⟩
    simp only [pick, readString_eq_ok_iff.2 ⟨k, literal, split⟩, known]

theorem nothing_eq_ok_iff :
    nothing s = .ok r ↔ ∃ w, Blanks w ∧ s = w ++ ("null".toList ++ r) := by
  constructor
  · intro h
    obtain ⟨w, c, t, blanks, rfl, taken⟩ := exists_of_skipBlank h
    split at taken
    · next same =>
      subst same
      rw [letters_eq_ok_iff.1 taken]
      exact ⟨w, blanks, rfl⟩
    · exact absurd taken mistyped_ne_ok
  · rintro ⟨w, blanks, rfl⟩
    have null : "null".toList ++ r = 'n' :: ("ull".toList ++ r) := rfl
    have taken : wordEnd "ull" ("ull".toList ++ r) = .ok r := letters_append _ _ _ r
    simp only [nothing, null, skipBlank_append blanks (show isBlank 'n' = false by decide), if_true,
      taken]

/-- The object form of a name, with the blanks in it. -/
theorem pickKey_eq_ok_iff_parts :
    pickKey options s = .ok (a, r) ↔
      ∃ name k w₁ w₂ w₃ w₄, options.lookup name = some a ∧ IsLiteral k name ∧
        (Blanks w₁ ∧ Blanks w₂ ∧ Blanks w₃ ∧ Blanks w₄) ∧
        s = w₁ ++ (k ++ (w₂ ++ ':' :: (w₃ ++ ("null".toList ++ (w₄ ++ '}' :: r))))) := by
  constructor
  · intro h
    obtain ⟨w₁, c, t, blanks₁, rfl, taken⟩ := exists_of_skipBlank h
    split at taken
    · cases taken
    split at taken
    · next quote =>
      subst quote
      split at taken
      · cases taken
      · next b u picked =>
        obtain ⟨name, k, known, literal, split⟩ := pick_eq_ok_iff.1 picked
        split at taken
        · cases taken
        · next separated =>
          obtain ⟨w₂, blanks₂, rfl⟩ := colon_eq_ok_iff.1 separated
          split at taken
          · cases taken
          · next null =>
            obtain ⟨w₃, blanks₃, rfl⟩ := nothing_eq_ok_iff.1 null
            obtain ⟨w₄, d, u, blanks₄, rfl, closed⟩ := exists_of_skipBlank taken
            split at closed
            · next close =>
              cases closed
              refine ⟨name, k, w₁, w₂, w₃, w₄, known, literal,
                ⟨blanks₁, blanks₂, blanks₃, blanks₄⟩, ?_⟩
              rw [split, close]
            · cases closed
    · cases taken
  · rintro ⟨name, _, w₁, w₂, w₃, w₄, known, ⟨body, rfl, spells⟩,
      ⟨blanks₁, blanks₂, blanks₃, blanks₄⟩, rfl⟩
    have picked : pick options
        (body ++ '"' :: (w₂ ++ ':' :: (w₃ ++ ("null".toList ++ (w₄ ++ '}' :: r))))) =
        .ok (a, w₂ ++ ':' :: (w₃ ++ ("null".toList ++ (w₄ ++ '}' :: r)))) :=
      pick_eq_ok_iff.2 ⟨name, _, known, ⟨body, rfl, spells⟩, by simp⟩
    have separated := colon_eq_ok_iff.2
      ⟨w₂, blanks₂, Eq.refl (w₂ ++ ':' :: (w₃ ++ ("null".toList ++ (w₄ ++ '}' :: r))))⟩
    have null := nothing_eq_ok_iff.2
      ⟨w₃, blanks₃, Eq.refl (w₃ ++ ("null".toList ++ (w₄ ++ '}' :: r)))⟩
    have close : skipBlank (w₄ ++ '}' :: r) = '}' :: r :=
      skipBlank_append blanks₄ (by decide)
    simp only [List.append_assoc, List.cons_append, List.nil_append, pickKey,
      skipBlank_append blanks₁ isBlank_quote, picked, separated, null, close]
    rfl

/-- The contents of an object with one member, with the blanks in it. -/
theorem contents_single_iff {name : String} {v : List Char} :
    Contents .curly IsMember true s [(name, v)] r ↔
      ∃ k w₁ w₂ w₃ w₄, IsLiteral k name ∧
        (Blanks w₁ ∧ Blanks w₂ ∧ Blanks w₃ ∧ Blanks w₄) ∧
        s = w₁ ++ (k ++ (w₂ ++ ':' :: (w₃ ++ (v ++ (w₄ ++ '}' :: r))))) := by
  constructor
  · intro h
    cases h with
    | item separator member rest =>
        obtain ⟨k, w₂, w₃, rfl, literal, blanks₂, blanks₃⟩ := member
        cases rest with
        | close blanks₄ =>
            exact ⟨k, _, w₂, w₃, _, literal, ⟨separator, blanks₂, blanks₃, blanks₄⟩, by
              simp [Bracket.close]⟩
  · rintro ⟨k, w₁, w₂, w₃, w₄, literal, ⟨blanks₁, blanks₂, blanks₃, blanks₄⟩, rfl⟩
    have separator : Separator true w₁ := blanks₁
    have member : IsMember (k ++ (w₂ ++ ':' :: (w₃ ++ v))) (name, v) :=
      ⟨k, w₂, w₃, rfl, literal, blanks₂, blanks₃⟩
    have close : Contents .curly IsMember false (w₄ ++ '}' :: r) [] r :=
      .close (b := .curly) blanks₄
    simpa using Contents.item separator member close

/-- **The object form of a name**: the name is the key of its one member, whose value is `null`. -/
theorem pickKey_eq_ok_iff :
    pickKey options s = .ok (a, r) ↔
      ∃ name, options.lookup name = some a ∧
        Contents .curly IsMember true s [(name, "null".toList)] r := by
  simp only [pickKey_eq_ok_iff_parts, contents_single_iff, exists_and_left]

/-- **A string literal is read as a name**: the one it decodes to is looked up. -/
theorem choice_read_literal {w k : List Char} {name : String} (blanks : Blanks w)
    (literal : IsLiteral k name) (r : List Char) :
    (choice options).read (w ++ (k ++ r)) =
      match options.lookup name with
      | some a => .ok (a, r)
      | none => before r (.unknownVariant name (options.map Prod.fst)) := by
  obtain ⟨body, rfl, spells⟩ := literal
  have read : readString [] (body ++ '"' :: r) = .ok (name, r) :=
    readString_eq_ok_iff.2 ⟨_, ⟨body, rfl, spells⟩, by simp⟩
  have picks : (choice options).read (w ++ ('"' :: (body ++ ['"']) ++ r)) =
      pick options (body ++ '"' :: r) := by
    simp [choice, skipBlank_append blanks isBlank_quote]
  rw [picks]
  cases found : options.lookup name with
  | none => simp only [pick, read, found]
  | some a => simp only [pick, read, found]

variable (options) in
/-- The language of a choice: a literal that decodes to a name, or the object form of the name. -/
def IsChoice : Language α := fun v a =>
  ∃ name, options.lookup name = some a ∧
    (IsLiteral v name ∨ IsObject v [(name, "null".toList)])

variable (options) in
theorem recognises_choice : Recognises (choice options) (IsChoice options) where
  starts := by
    rintro v a ⟨name, -, literal | object⟩
    · exact starts_of_isLiteral literal
    · exact starts_of_enclosed object
  sound := by
    intro s a r read
    obtain ⟨w, c, t, blanks, rfl, taken⟩ := exists_of_skipBlank read
    split at taken
    · next quote =>
      subst quote
      obtain ⟨name, k, known, literal, split⟩ := pick_eq_ok_iff.1 taken
      exact ⟨w, k, blanks, ⟨name, known, .inl literal⟩, by rw [split]⟩
    split at taken
    · next brace =>
      subst brace
      obtain ⟨name, known, contents⟩ := pickKey_eq_ok_iff.1 taken
      obtain ⟨v, object, split⟩ := contents_iff_enclosed.1 contents
      exact ⟨w, v, blanks, ⟨name, known, .inr object⟩, by rw [← split]; rfl⟩
    · cases taken
  complete := by
    rintro w v a r blanks ⟨name, known, literal | object⟩ -
    · rw [choice_read_literal blanks literal, known]
    · obtain ⟨t, rfl⟩ := object.exists_opening
      have contents : Contents .curly IsMember true (t ++ r) _ r :=
        contents_iff_enclosed.2 ⟨_, object, rfl⟩
      have picked := pickKey_eq_ok_iff.2 ⟨name, known, contents⟩
      simp [choice, Bracket.opening, skipBlank_append blanks isBlank_brace, picked]

/-- A choice among values that are told apart by their names. -/
theorem recognises_choice_of_names {name : α → String}
    (known : ∀ {n a}, options.lookup n = some a ↔ name a = n) :
    Recognises (choice options) fun v a =>
      IsLiteral v (name a) ∨ IsObject v [(name a, "null".toList)] := by
  have same : IsChoice options = fun v a =>
      IsLiteral v (name a) ∨ IsObject v [(name a, "null".toList)] := by
    funext v a
    refine propext ⟨?_, fun h => ⟨name a, known.2 rfl, h⟩⟩
    rintro ⟨n, found, h⟩
    rw [known] at found
    subst found
    exact h
  rw [← same]
  exact recognises_choice options

end Choice

end Lexicon.Json
