import Lexicon.Json.Skip
import Lexicon.Proofs.Json.Contents

/-!
# Skipping is recognising any value

A value that nobody asks for is skipped by a loop that keeps the open brackets on a stack.  Two
facts say that it accepts exactly the values of the grammar, at any depth.

* **It accepts nothing else.**  `Skips position stack s r` writes down what a successful run has
  seen of `s`, for each place the loop can be in.  At a value it has seen one, and after a value it
  has seen what closes the brackets of the stack (`Closes`), the innermost first.  Every run keeps
  to it (`skips_of_skip`), by induction along the run.
* **It accepts every value.**  A value in front of `u` takes the loop to the place after it and
  changes nothing else, whatever is open (`passed_of_isValue`).  The statement is an equation
  between two runs of the same loop, over every stack, so it can be used for the values inside a
  value; the induction is on the grammar.
-/

namespace Lexicon.Json

variable {s t u r w v : List Char} {c : Char} {b : Bracket} {stack : List Bracket}

/-! ## Scalars -/

/-- A skipped scalar is one. -/
theorem isScalar_of_skipScalar (h : skipScalar c s = .ok r) :
    ∃ v, IsScalar v ∧ c :: s = v ++ r := by
  have word {rest : String} (known : String.ofList (c :: rest.toList) ∈ ["null", "true", "false"])
      (h : wordEnd rest s = .ok r) : ∃ v, IsScalar v ∧ c :: s = v ++ r := by
    refine ⟨_, .word known, ?_⟩
    rw [letters_eq_ok_iff.1 h, String.toList_ofList, List.cons_append]
  have magnitude {negative : Bool} {t : List Char}
      (h : Prod.snd <$> takeNumeral .badNumber negative t = .ok r) :
      ∃ v, IsMagnitude v ∧ t = v ++ r := by
    cases taken : takeNumeral .badNumber negative t with
    | error e =>
        rw [taken] at h
        cases h
    | ok p =>
        rw [taken] at h
        cases h
        exact isMagnitude_of_takeNumeral taken
  unfold skipScalar at h
  split at h
  · next same =>
    subst same
    exact word (by decide) h
  split at h
  · next same =>
    subst same
    exact word (by decide) h
  split at h
  · next same =>
    subst same
    exact word (by decide) h
  split at h
  · next same =>
    subst same
    obtain ⟨v, raw, split⟩ := skipString_eq_ok_iff.1 h
    exact ⟨v, .text raw, split⟩
  split at h
  · next same =>
    subst same
    obtain ⟨v, isMagnitude, rfl⟩ := magnitude h
    exact ⟨_, .numeral (.negative isMagnitude), rfl⟩
  split at h
  · obtain ⟨v, isMagnitude, split⟩ := magnitude h
    exact ⟨v, .numeral (.positive isMagnitude), split⟩
  · cases h

/-- A numeral without its sign starts with a digit. -/
theorem IsMagnitude.exists_digit (h : IsMagnitude v) : ∃ c t, v = c :: t ∧ c.isDigit = true := by
  cases h with
  | mk isWhole isFraction isExponent =>
      cases isWhole with
      | zero => exact ⟨_, _, rfl, by decide⟩
      | digits nonzero digits => exact ⟨_, _, rfl, digits.2 _ (List.mem_cons_self ..)⟩

/-- A digit is neither a letter, a quote, a sign, a blank nor a bracket. -/
theorem ne_of_isDigit {d : Char} (h : c.isDigit = true) (hd : d.isDigit = false) : c ≠ d := by
  rintro rfl
  rw [h] at hd
  cases hd

theorem isBlank_of_isDigit (h : c.isDigit = true) : isBlank c = false := by
  have ne (d : Char) (hd : d.isDigit = false) := ne_of_isDigit h hd
  simp [isBlank, ne ' ' (by decide), ne '\n' (by decide), ne '\t' (by decide), ne '\r' (by decide)]

theorem opened?_of_isDigit (h : c.isDigit = true) : Bracket.opened? c = none := by
  have ne (d : Char) (hd : d.isDigit = false) := ne_of_isDigit h hd
  simp [Bracket.opened?, ne '[' (by decide), ne '{' (by decide)]

/-- **A scalar** in front of the end of a value is skipped, and it starts like one. -/
theorem skipScalar_append (h : IsScalar v) (ends : Ends u) :
    ∃ c t, v = c :: t ∧ isBlank c = false ∧ (∀ b : Bracket, c ≠ b.close) ∧
      Bracket.opened? c = none ∧ skipScalar c (t ++ u) = .ok u := by
  cases h with
  | word known =>
      simp only [List.mem_cons, List.not_mem_nil, or_false] at known
      rcases known with rfl | rfl | rfl
      · exact ⟨'n', "ull".toList, by decide, by decide, by rintro (_ | _) <;> decide, rfl,
          letters_append .cutValue .noWord _ _⟩
      · exact ⟨'t', "rue".toList, by decide, by decide, by rintro (_ | _) <;> decide, rfl,
          letters_append .cutValue .noWord _ _⟩
      · exact ⟨'f', "alse".toList, by decide, by decide, by rintro (_ | _) <;> decide, rfl,
          letters_append .cutValue .noWord _ _⟩
  | text literal =>
      obtain ⟨body, rfl, raw⟩ := literal
      refine ⟨'"', body ++ ['"'], rfl, by decide, by rintro (_ | _) <;> decide, rfl, ?_⟩
      exact skipString_eq_ok_iff.2 ⟨_, ⟨body, rfl, raw⟩, rfl⟩
  | numeral numeral =>
      cases numeral with
      | positive magnitude =>
          obtain ⟨c, t, rfl, digit⟩ := magnitude.exists_digit
          obtain ⟨n, taken⟩ := takeNumeral_append .badNumber false magnitude ends
          have ne (d : Char) (hd : d.isDigit = false) := ne_of_isDigit digit hd
          refine ⟨c, t, rfl, isBlank_of_isDigit digit, ?_, opened?_of_isDigit digit, ?_⟩
          · rintro (_ | _)
            · exact ne ']' (by decide)
            · exact ne '}' (by decide)
          · rw [List.cons_append] at taken
            rw [skipScalar, if_neg (ne _ (by decide)), if_neg (ne _ (by decide)),
              if_neg (ne _ (by decide)), if_neg (ne _ (by decide)), if_neg (ne _ (by decide)),
              if_pos digit, taken]
            rfl
      | @negative t magnitude =>
          obtain ⟨n, taken⟩ := takeNumeral_append .badNumber true magnitude ends
          refine ⟨'-', t, rfl, by decide, by rintro (_ | _) <;> decide, rfl, ?_⟩
          show Prod.snd <$> takeNumeral .badNumber true (t ++ u) = .ok u
          rw [taken]
          rfl

/-! ## Keys -/

/-- A key is skipped with its colon and the blanks before both. -/
theorem skipKey_eq_ok_iff :
    skipKey s = .ok r ↔
      ∃ w k w', Blanks w ∧ IsRawLiteral k ∧ Blanks w' ∧ s = w ++ (k ++ (w' ++ ':' :: r)) := by
  constructor
  · intro h
    obtain ⟨w, c, t, blanks, rfl, taken⟩ := exists_of_skipBlank h
    split at taken
    · next quote =>
      subst quote
      split at taken
      · next u read =>
        obtain ⟨k, raw, split⟩ := skipString_eq_ok_iff.1 read
        obtain ⟨w', blanks', rfl⟩ := colon_eq_ok_iff.1 taken
        exact ⟨w, k, w', blanks, raw, blanks', by rw [split]⟩
      · cases taken
    · cases taken
  · rintro ⟨w, k, w', blanks, ⟨body, rfl, raw⟩, blanks', rfl⟩
    have read : skipString (body ++ '"' :: (w' ++ ':' :: r)) = .ok (w' ++ ':' :: r) :=
      skipString_eq_ok_iff.2 ⟨_, ⟨body, rfl, raw⟩, by simp⟩
    have separated : colon (w' ++ ':' :: r) = .ok r := colon_eq_ok_iff.2 ⟨w', blanks', rfl⟩
    simp [skipKey, skipBlank_append blanks, show isBlank '"' = false by decide, read, separated]

/-- What was passed over in front of a value is the rest of its item. -/
theorem item_of_skipLead (h : b.skipLead s = .ok (w ++ (v ++ u))) (blanks : Blanks w) :
    ∃ w' m, Blanks w' ∧ b.Item m v ∧ s = w' ++ (m ++ u) := by
  cases b with
  | square =>
      cases h
      exact ⟨w, v, blanks, rfl, rfl⟩
  | curly =>
      obtain ⟨w', k, w'', blanks', raw, blanks'', rfl⟩ := skipKey_eq_ok_iff.1 h
      exact ⟨w', _, blanks', ⟨k, w'', w, rfl, raw, blanks'', blanks⟩, by simp⟩

/-- An item is passed over up to its value. -/
theorem skipLead_append {m : List Char} (h : b.Item m v) (blanks : Blanks w) :
    ∃ w', Blanks w' ∧ b.skipLead (w ++ (m ++ u)) = .ok (w' ++ (v ++ u)) := by
  cases b with
  | square =>
      cases h
      exact ⟨w, blanks, rfl⟩
  | curly =>
      obtain ⟨k, w', w'', rfl, raw, blanks', blanks''⟩ := h
      exact ⟨w'', blanks'', skipKey_eq_ok_iff.2 ⟨w, k, w', blanks, raw, blanks', by simp⟩⟩

/-! ## What a run has seen -/

theorem opened?_eq_some_iff : Bracket.opened? c = some b ↔ c = b.opening := by
  constructor
  · intro h
    unfold Bracket.opened? at h
    split at h
    · next same =>
      cases h
      exact same
    · split at h
      · next same =>
        cases h
        exact same
      · cases h
  · rintro rfl
    cases b <;> rfl

/-- What closes the brackets of a stack, the innermost first. -/
inductive Closes : List Bracket → List Char → List Char → Prop
  | done {r : List Char} : Closes [] r r
  | close {b : Bracket} {stack : List Bracket} {s t r : List Char} {values : List (List Char)}
      (contents : Contents b b.Item false s values t) (inner : ∀ v ∈ values, IsValue v)
      (rest : Closes stack t r) : Closes (b :: stack) s r

/-- **What a run has seen** of a text from a position on, if it ended in front of `r`. -/
def Skips : Position → List Bracket → List Char → List Char → Prop
  | .value, stack, s, r =>
      ∃ w v t, Blanks w ∧ IsValue v ∧ s = w ++ (v ++ t) ∧ Closes stack t r
  | .opened b, stack, s, r =>
      ∃ values t, Contents b b.Item true s values t ∧ (∀ v ∈ values, IsValue v) ∧ Closes stack t r
  | .after, stack, s, r => Closes stack s r

/-- A value inside an open bracket continues the contents that end with it. -/
theorem contents_of_skips_value {first : Bool} {l : List Char}
    (separator : Separator first l) (lead : b.skipLead s = .ok t)
    (h : Skips .value (b :: stack) t r) :
    ∃ values u, Contents b b.Item first (l ++ s) values u ∧ (∀ v ∈ values, IsValue v) ∧
      Closes stack u r := by
  obtain ⟨w, v, u, blanks, value, rfl, closes⟩ := h
  obtain ⟨w', m, blanks', item, rfl⟩ := item_of_skipLead lead blanks
  -- The value was skipped with `b` on top of the stack, so the contents of `b` go on behind it.
  cases closes with
  | @close _ _ _ u' _ values contents inner rest =>
      refine ⟨v :: values, u', ?_, List.forall_mem_cons.2 ⟨value, inner⟩, rest⟩
      rw [← List.append_assoc]
      exact .item (separator_append separator blanks') item contents

/-- **Every run keeps to the grammar**: what it has seen is what the grammar asks for. -/
theorem skips_of_skip {position : Position} (h : skip position stack s = .ok r) :
    Skips position stack s r := by
  fun_induction skip position stack s with
  | case1 => cases h
  | case2 stack s c t blank _ b opened ih =>
      obtain ⟨w, blanks, rfl, -⟩ := skipBlank_eq_cons_iff.1 blank
      obtain ⟨values, u, contents, inner, closes⟩ := ih h
      obtain ⟨v, enclosed, split⟩ := contents_iff_enclosed.1 contents
      rw [opened?_eq_some_iff.1 opened, split]
      exact ⟨w, v, u, blanks, .enclosed enclosed inner, rfl, closes⟩
  | case3 stack s c t blank _ _ u taken _ ih =>
      obtain ⟨w, blanks, rfl, -⟩ := skipBlank_eq_cons_iff.1 blank
      obtain ⟨v, scalar, split⟩ := isScalar_of_skipScalar taken
      rw [split]
      exact ⟨w, v, u, blanks, .scalar scalar, rfl, ih h⟩
  | case4 => cases h
  | case5 => cases h
  | case6 stack s b t blank _ ih =>
      obtain ⟨w, blanks, rfl, -⟩ := skipBlank_eq_cons_iff.1 blank
      exact ⟨[], t, .close blanks, List.forall_mem_nil _, ih h⟩
  | case7 stack s b c t blank _ _ u lead _ ih =>
      obtain ⟨w, blanks, rfl, -⟩ := skipBlank_eq_cons_iff.1 blank
      have separator : Separator true w := blanks
      exact contents_of_skips_value separator lead (ih h)
  | case8 => cases h
  | case9 => cases h; exact .done
  | case10 => cases h
  | case11 s b stack t blank _ ih =>
      obtain ⟨w, blanks, rfl, -⟩ := skipBlank_eq_cons_iff.1 blank
      exact .close (.close blanks) (List.forall_mem_nil _) (ih h)
  | case12 s b stack t u lead _ blank _ _ ih =>
      obtain ⟨w, blanks, rfl, -⟩ := skipBlank_eq_cons_iff.1 blank
      have separator : Separator false (w ++ [',']) := ⟨w, [], blanks, blanks_nil, rfl⟩
      -- Behind the comma stands another value of the brackets that are open.
      obtain ⟨values, u', contents, inner, closes⟩ :=
        contents_of_skips_value separator lead (ih h)
      refine .close ?_ inner closes
      simpa using contents
  | case13 => cases h
  | case14 => cases h

/-! ## Every value is skipped -/

/-- A value takes the loop to the place after it, whatever is open and wherever a value may end. -/
def Passed (v : List Char) : Prop :=
  ∀ (stack : List Bracket) (w u : List Char), Blanks w → Ends u →
    skip .value stack (w ++ (v ++ u)) = skip .after stack u

theorem passed_of_isScalar (h : IsScalar v) : Passed v := by
  intro stack w u blanks ends
  obtain ⟨c, t, rfl, notBlank, -, unopened, taken⟩ := skipScalar_append h ends
  rw [skip_value, List.cons_append, skipBlank_append blanks notBlank]
  simp only [unopened, taken]

/-- An item starts like its value, or with the quote of its key. -/
theorem starts_of_item {m : List Char} (h : b.Item m v) (starts : Starts v) : Starts m := by
  cases b with
  | square =>
      cases h
      exact starts
  | curly =>
      obtain ⟨_, _, _, rfl, ⟨_, rfl, _⟩, _, _⟩ := h
      exact starts_cons _ (by decide)

/-- Further items take the loop past the closing bracket, if it passes each of them. -/
theorem skip_after_contents {values : List (List Char)} (h : Contents b b.Item false s values u)
    (passed : ∀ v ∈ values, Passed v) : skip .after (b :: stack) s = skip .after stack u := by
  induction values generalizing s with
  | nil =>
      cases h with
      | close blanks =>
          rw [skip_after, skipBlank_append blanks (isBlank_close b)]
          exact if_pos rfl
  | cons v values ih =>
      rw [List.forall_mem_cons] at passed
      cases h with
      | @item _ l m s u v values separator item rest =>
          obtain ⟨w, w', before, after, rfl⟩ := separator
          obtain ⟨w'', blanks, lead⟩ := skipLead_append (u := s) item after
          rw [List.append_assoc, List.cons_append, skip_after,
            skipBlank_append before (by decide)]
          simp only [(close_ne_comma b).symm, if_false, if_true, lead]
          rw [passed.1 _ _ _ blanks rest.ends]
          exact ih rest passed.2

/-- The items after an opening bracket take the loop past the closing one. -/
theorem skip_opened_contents {values : List (List Char)} (h : Contents b b.Item true s values u)
    (starts : ∀ v ∈ values, Starts v) (passed : ∀ v ∈ values, Passed v) :
    skip (.opened b) stack s = skip .after stack u := by
  cases h with
  | close blanks =>
      rw [skip_opened, skipBlank_append blanks (isBlank_close b)]
      exact if_pos rfl
  | @item _ l m s u v values separator item rest =>
      rw [List.forall_mem_cons] at starts passed
      obtain ⟨c, t, rfl, notBlank, notClose⟩ := starts_of_item item starts.1
      obtain ⟨w, blanks, lead⟩ := skipLead_append (u := s) item blanks_nil
      rw [List.nil_append] at lead
      rw [List.cons_append] at lead ⊢
      rw [skip_opened, skipBlank_append separator notBlank]
      simp only [notClose b, if_false, lead]
      rw [passed.1 _ _ _ blanks rest.ends]
      exact skip_after_contents rest passed.2

theorem starts_of_isValue (h : IsValue v) : Starts v := by
  cases h with
  | scalar scalar =>
      obtain ⟨c, t, same, notBlank, notClose, -⟩ := skipScalar_append scalar ends_nil
      exact ⟨c, t, same, notBlank, notClose⟩
  | enclosed items inner => exact starts_of_enclosed items

/-- **Every value is passed**, at any depth and whatever is open. -/
theorem passed_of_isValue (h : IsValue v) : Passed v := by
  induction h with
  | scalar scalar => exact passed_of_isScalar scalar
  | @enclosed b v values items inner ih =>
      intro stack w u blanks ends
      -- Inside the brackets the loop sees contents, and they end where the value does.
      obtain ⟨t, rfl⟩ := items.exists_opening
      have contents : Contents b b.Item true (t ++ u) values u :=
        contents_iff_enclosed.2 ⟨_, items, rfl⟩
      rw [skip_value, List.cons_append, skipBlank_append blanks (isBlank_opening b)]
      simp only [opened?_eq_some_iff.2 (Eq.refl b.opening)]
      exact skip_opened_contents contents (fun v member => starts_of_isValue (inner v member)) ih

end Lexicon.Json
