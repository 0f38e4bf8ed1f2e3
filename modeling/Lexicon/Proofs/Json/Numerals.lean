import Lexicon.Json.Skip
import Lexicon.Proofs.Json.Literals

/-!
# Reading numerals

A numeral does not end by itself: `12` is one in front of a comma and is none in front of a `3`.  So
reading one is complete only under a condition on what follows, `Ends`, which holds at the end of a
text and wherever a value may stop.  Within a numeral each part stops where the next one starts, and
the conditions passed along are the two that matter there: no digit follows, and no point follows.
-/

namespace Lexicon.Json

variable {s r : List Char} {c : Char} {cut : Cause}

/-! ## What may follow a value -/

/-- What may follow a value: nothing, a blank, a comma or a closing bracket. -/
def Ends (r : List Char) : Prop :=
  ∀ c ∈ r.head?, isBlank c = true ∨ c = ',' ∨ c = ']' ∨ c = '}'

/-- No digit follows. -/
def NoDigit (r : List Char) : Prop := ∀ c ∈ r.head?, c.isDigit = false

theorem noDigit_cons (h : c.isDigit = false) : NoDigit (c :: r) := by
  intro d hd
  cases hd
  exact h

/-- No character that may follow a value goes on with a numeral. -/
theorem Ends.stops (h : Ends (c :: r)) :
    c.isDigit = false ∧ c ≠ '.' ∧ c ≠ 'e' ∧ c ≠ 'E' := by
  rcases h c rfl with blank | rfl | rfl | rfl
  · simp only [isBlank, Bool.or_eq_true, decide_eq_true_eq] at blank
    rcases blank with ((rfl | rfl) | rfl) | rfl <;> decide
  all_goals decide

theorem Ends.noDigit (h : Ends r) : NoDigit r := by
  intro c hc
  cases r with
  | nil => cases hc
  | cons d r =>
      cases hc
      exact h.stops.1

theorem ends_nil : Ends [] := fun _ h => by cases h

theorem ends_of_blank (h : isBlank c = true) : Ends (c :: r) := by
  intro d hd
  cases hd
  exact .inl h

/-- After blanks the end of a value is still one. -/
theorem Blanks.ends_append {w : List Char} (h : Blanks w) (ends : Ends r) : Ends (w ++ r) := by
  cases w with
  | nil => exact ends
  | cons c w => exact ends_of_blank (h c (List.mem_cons_self ..))

theorem ends_comma : Ends (',' :: r) := by
  intro d hd
  cases hd
  exact .inr (.inl rfl)

theorem ends_close (b : Bracket) : Ends (b.close :: r) := by
  intro d hd
  cases hd
  cases b with
  | square => exact .inr (.inr (.inl rfl))
  | curly => exact .inr (.inr (.inr rfl))

/-! ## Digits -/

/-- The digits that are taken are digits, and all that is taken. -/
theorem digits_of_someDigits {d : List Char} (h : someDigits cut s = .ok (d, r)) :
    Digits d ∧ s = d ++ r := by
  cases s with
  | nil => cases h
  | cons c s =>
      rw [someDigits] at h
      split at h
      · next digit =>
        cases h
        refine ⟨⟨?_, fun _ => List.mem_takeWhile_imp⟩, List.takeWhile_append_dropWhile.symm⟩
        rw [takeDigits, List.takeWhile_cons_of_pos digit]
        exact List.cons_ne_nil _ _
      · cases h

/-- Digits are taken as far as they go. -/
theorem someDigits_append (cut : Cause) {d : List Char} (h : Digits d) (stop : NoDigit r) :
    someDigits cut (d ++ r) = .ok (d, r) := by
  obtain ⟨nonempty, all⟩ := h
  have taken : takeDigits (d ++ r) = d := by
    rw [takeDigits, List.takeWhile_append_of_pos all]
    cases r with
    | nil => simp
    | cons c r => simp [stop c rfl]
  have dropped : dropDigits (d ++ r) = r := by
    rw [dropDigits, List.dropWhile_append_of_pos all]
    cases r with
    | nil => rfl
    | cons c r => simp [stop c rfl]
  -- The first digit is looked at before all of them are taken.
  cases d with
  | nil => exact absurd rfl nonempty
  | cons c d =>
      rw [List.cons_append] at taken dropped ⊢
      rw [someDigits, if_pos (all c (List.mem_cons_self ..)), taken, dropped]

/-! ## The parts of a numeral -/

theorem isWhole_of_wholeDigits {d : List Char} (h : wholeDigits cut s = .ok (d, r)) :
    IsWhole d ∧ s = d ++ r := by
  unfold wholeDigits at h
  split at h
  · split at h
    · cases h
    · cases h
      exact ⟨.zero, rfl⟩
  · next alone =>
    obtain ⟨digits, rfl⟩ := digits_of_someDigits h
    refine ⟨?_, rfl⟩
    cases d with
    | nil => exact absurd rfl digits.1
    | cons c d =>
        by_cases zero : c = '0'
        · subst zero
          -- A zero that anything follows is read on its own, so nothing follows this one.
          cases d with
          | nil => exact .zero
          | cons c d => exact absurd rfl (alone c (d ++ r))
        · exact .digits zero digits

theorem wholeDigits_append (cut : Cause) {d : List Char} (h : IsWhole d) (stop : NoDigit r) :
    wholeDigits cut (d ++ r) = .ok (d, r) := by
  cases h with
  | zero =>
      have digits : Digits ['0'] :=
        ⟨List.cons_ne_nil _ _, List.forall_mem_singleton.2 (by decide)⟩
      -- A lone zero at the end of the text is read like any digits.
      cases r with
      | nil => exact someDigits_append cut (d := ['0']) digits stop
      | cons c r => simp [wholeDigits, stop c rfl]
  | @digits c d nonzero digits =>
      rw [← someDigits_append cut digits stop, wholeDigits]
      intro c' r' same
      exact nonzero (List.cons.inj same).1

theorem isFraction_of_fractionDigits {d : List Char} (h : fractionDigits cut s = .ok (d, r)) :
    ∃ f, IsFraction f ∧ s = f ++ r := by
  unfold fractionDigits at h
  split at h
  · obtain ⟨digits, rfl⟩ := digits_of_someDigits h
    exact ⟨_, .some digits, rfl⟩
  · cases h
    exact ⟨[], .none, rfl⟩

theorem fractionDigits_append (cut : Cause) {f : List Char} (h : IsFraction f) (stop : NoDigit r)
    (noPoint : ∀ t, r ≠ '.' :: t) : ∃ d, fractionDigits cut (f ++ r) = .ok (d, r) := by
  cases h with
  | none =>
      refine ⟨[], ?_⟩
      rw [List.nil_append, fractionDigits]
      exact noPoint
  | some digits =>
      exact ⟨_, someDigits_append cut digits stop⟩

/-- A sign is dropped, whether it is there or not. -/
theorem exists_dropSign (s : List Char) : ∃ sign, IsSign sign ∧ s = sign ++ dropSign s := by
  unfold dropSign
  split
  · exact ⟨_, .inr (.inr rfl), rfl⟩
  · exact ⟨_, .inr (.inl rfl), rfl⟩
  · exact ⟨_, .inl rfl, rfl⟩

theorem dropSign_append {sign d : List Char} (h : IsSign sign) (digits : Digits d) :
    dropSign (sign ++ (d ++ r)) = d ++ r := by
  rcases h with rfl | rfl | rfl
  · cases d with
    | nil => exact absurd rfl digits.1
    | cons c d =>
        have digit := digits.2 c (List.mem_cons_self ..)
        rw [List.nil_append, List.cons_append, dropSign]
        · intro t same
          cases same
          exact absurd digit (by decide)
        · intro t same
          cases same
          exact absurd digit (by decide)
  · rfl
  · rfl

theorem isExponent_of_exponentPart {e : Option (Bool × List Char)}
    (h : exponentPart cut s = .ok (e, r)) : ∃ x, IsExponent x ∧ s = x ++ r := by
  cases s with
  | nil =>
      cases h
      exact ⟨[], .none, rfl⟩
  | cons c s =>
      rw [exponentPart] at h
      split at h
      · next mark =>
        split at h
        · next taken =>
          cases h
          obtain ⟨digits, rest⟩ := digits_of_someDigits taken
          obtain ⟨sign, signed, split⟩ := exists_dropSign s
          refine ⟨_, .some mark signed digits, ?_⟩
          rw [split, rest]
          simp
        · cases h
      · cases h
        exact ⟨[], .none, rfl⟩

theorem exponentPart_append (cut : Cause) {x : List Char} (h : IsExponent x) (ends : Ends r) :
    ∃ e, exponentPart cut (x ++ r) = .ok (e, r) := by
  cases h with
  | none =>
      refine ⟨none, ?_⟩
      cases r with
      | nil => rfl
      | cons c r =>
          obtain ⟨-, -, small, capital⟩ := ends.stops
          rw [List.nil_append, exponentPart, if_neg (not_or.2 ⟨small, capital⟩)]
  | some mark signed digits =>
      rw [List.cons_append, List.append_assoc, exponentPart, if_pos mark,
        dropSign_append signed digits, someDigits_append cut digits ends.noDigit]
      exact ⟨_, rfl⟩

/-! ## Whole numerals -/

/-- In front of an exponent the digits stop, and so does a number without a fraction. -/
theorem IsExponent.stops {x : List Char} (h : IsExponent x) (ends : Ends r) :
    NoDigit (x ++ r) ∧ ∀ t, x ++ r ≠ '.' :: t := by
  cases h with
  | none =>
      refine ⟨ends.noDigit, ?_⟩
      rintro t rfl
      exact ends.stops.2.1 rfl
  | some mark signed digits =>
      rcases mark with rfl | rfl
      · exact ⟨noDigit_cons (by decide), fun t same => by cases same⟩
      · exact ⟨noDigit_cons (by decide), fun t same => by cases same⟩

/-- In front of a fraction the digits stop. -/
theorem IsFraction.stops {f : List Char} (h : IsFraction f) (stop : NoDigit r) :
    NoDigit (f ++ r) := by
  cases h with
  | none => exact stop
  | some digits => exact noDigit_cons (by decide)

/-- What is taken as a numeral is one. -/
theorem isMagnitude_of_takeNumeral {negative : Bool} {n : Numeral}
    (h : takeNumeral cut negative s = .ok (n, r)) : ∃ v, IsMagnitude v ∧ s = v ++ r := by
  unfold takeNumeral at h
  split at h
  · cases h
  · next whole t taken =>
    obtain ⟨isWhole, rfl⟩ := isWhole_of_wholeDigits taken
    split at h
    · cases h
    · next fraction u taken =>
      obtain ⟨f, isFraction, rfl⟩ := isFraction_of_fractionDigits taken
      split at h
      · cases h
      · next exponent v taken =>
        obtain ⟨x, isExponent, rfl⟩ := isExponent_of_exponentPart taken
        cases h
        exact ⟨_, .mk isWhole isFraction isExponent, by simp⟩

/-- A numeral is taken where a value may end. -/
theorem takeNumeral_append (cut : Cause) (negative : Bool) {v : List Char} (h : IsMagnitude v)
    (ends : Ends r) :
    ∃ n, takeNumeral cut negative (v ++ r) = .ok (n, r) := by
  cases h with
  | @mk whole f x isWhole isFraction isExponent =>
      -- Each part stops in front of the next one, so the stops are found from the end.
      obtain ⟨noDigit, noPoint⟩ := isExponent.stops ends
      have fractionStop := isFraction.stops noDigit
      obtain ⟨d, fraction⟩ := fractionDigits_append cut isFraction noDigit noPoint
      obtain ⟨e, exponent⟩ := exponentPart_append cut isExponent ends
      refine ⟨⟨negative, whole, d, e⟩, ?_⟩
      rw [List.append_assoc, List.append_assoc, takeNumeral,
        wholeDigits_append cut isWhole fractionStop]
      simp only [fraction, exponent]

end Lexicon.Json
