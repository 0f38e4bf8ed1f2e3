import Lexicon.Proofs.Json.Grammar
import Mathlib.Data.List.TakeWhile

/-!
# Reading blanks, punctuation and string literals

Every reader of a part of the grammar takes it off the front of a text exactly when it is there, and
leaves what follows.  This file proves it for the parts that end by themselves: a run of blanks up
to a character that is none, a colon, and the inside of a string literal up to its quote, read
(`readString_eq_ok_iff`) or skipped (`skipString_eq_ok_iff`).

The two directions of a statement are proved apart where they need different inductions: reading
back along the recursion of the reader, completeness along the derivation in the grammar.
-/

namespace Lexicon.Json

variable {s r w : List Char} {c : Char}

/-! ## Blanks and punctuation -/

theorem blanks_nil : Blanks [] := fun _ h => by cases h

theorem blanks_append {w' : List Char} (h : Blanks w) (h' : Blanks w') : Blanks (w ++ w') := by
  intro c member
  rcases List.mem_append.1 member with before | after
  · exact h c before
  · exact h' c after

/-- Blanks in front of another character are skipped up to it. -/
theorem skipBlank_append (h : Blanks w) (hc : isBlank c = false) :
    skipBlank (w ++ c :: r) = c :: r := by
  rw [skipBlank, List.dropWhile_append_of_pos h, List.dropWhile_cons_of_neg (by simp [hc])]

/-- The blanks that are skipped. -/
theorem exists_skipBlank (s : List Char) : ∃ w, Blanks w ∧ s = w ++ skipBlank s :=
  ⟨s.takeWhile isBlank, fun _ h => List.mem_takeWhile_imp h, List.takeWhile_append_dropWhile.symm⟩

theorem skipBlank_eq_cons_iff :
    skipBlank s = c :: r ↔ ∃ w, Blanks w ∧ s = w ++ c :: r ∧ isBlank c = false := by
  constructor
  · intro h
    obtain ⟨w, blanks, split⟩ := exists_skipBlank s
    rw [h] at split
    refine ⟨w, blanks, split, ?_⟩
    -- The run of blanks is the longest one, so what stands after it is none.
    have stops := List.head?_dropWhile_not isBlank s
    rw [show s.dropWhile isBlank = c :: r from h] at stops
    simpa using stops
  · rintro ⟨w, blanks, rfl, hc⟩
    exact skipBlank_append blanks hc

theorem skipBlank_eq_nil_iff : skipBlank s = [] ↔ Blanks s :=
  List.dropWhile_eq_nil_iff

/-- **The way most readers begin**: where one succeeds, it skipped blanks and went on with the
character behind them. -/
theorem exists_of_skipBlank {α : Type} {cause : Cause} {a : α}
    {go : Char → List Char → Except Failure α} :
    (match skipBlank s with
      | [] => atEnd cause
      | c :: r => go c r) = .ok a →
      ∃ w c r, Blanks w ∧ s = w ++ c :: r ∧ go c r = .ok a := by
  intro h
  split at h
  · cases h
  · next c r skipped =>
    obtain ⟨w, blanks, split, -⟩ := skipBlank_eq_cons_iff.1 skipped
    exact ⟨w, c, r, blanks, split, h⟩

/-- A colon is read with the blanks in front of it. -/
theorem colon_eq_ok_iff : colon s = .ok r ↔ ∃ w, Blanks w ∧ s = w ++ ':' :: r := by
  rw [colon]
  constructor
  · intro h
    obtain ⟨w, d, t, blanks, rfl, taken⟩ := exists_of_skipBlank h
    split at taken
    · next same =>
      cases taken
      exact ⟨w, blanks, by rw [same]⟩
    · cases taken
  · rintro ⟨w, blanks, rfl⟩
    rw [skipBlank_append blanks (by decide)]
    rfl

/-- Fixed letters are read exactly where they stand. -/
theorem letters_eq_ok_iff {cut wrong : Cause} {word : List Char} :
    letters cut wrong word s = .ok r ↔ s = word ++ r := by
  constructor
  · exact letters_eq_ok
  · rintro rfl
    exact letters_append cut wrong word r

/-! ## Escapes -/

theorem hexFour_eq_ok_iff {n : Nat} :
    hexFour s = .ok (n, r) ↔ ∃ h, IsHex h n ∧ s = h ++ r := by
  constructor
  · intro h
    unfold hexFour at h
    split at h
    · next a b c d t =>
      split at h
      · next value =>
        cases h
        exact ⟨[a, b, c, d], ⟨a, b, c, d, rfl, value⟩, rfl⟩
      · unfold badHex at h
        split at h <;> cases h
    · unfold badHex at h
      split at h <;> cases h
  · rintro ⟨h, ⟨a, b, c, d, rfl, value⟩, rfl⟩
    simp only [List.cons_append, List.nil_append, hexFour, value]

/-- The letters that are written are among those that are read. -/
theorem letter_of_mem {l : Char} (h : (c, l) ∈ letterEscapes) : Letter l c := by
  simp only [letterEscapes, List.mem_cons, Prod.mk.injEq, List.not_mem_nil, or_false] at h
  rcases h with ⟨rfl, rfl⟩ | ⟨rfl, rfl⟩ | ⟨rfl, rfl⟩ | ⟨rfl, rfl⟩ | ⟨rfl, rfl⟩ | ⟨rfl, rfl⟩ |
    ⟨rfl, rfl⟩
  · exact .quote
  · exact .backslash
  · exact .backspace
  · exact .formFeed
  · exact .newline
  · exact .carriageReturn
  · exact .tab

theorem escaped?_eq_some_iff {l : Char} : escaped? l = some c ↔ Letter l c := by
  constructor
  · intro h
    rw [escaped?] at h
    split at h
    · next slash =>
      cases h
      rw [slash]
      exact .slash
    · rw [Option.map_eq_some_iff] at h
      obtain ⟨⟨d, m⟩, found, rfl⟩ := h
      have same : m = l := by simpa using List.find?_some found
      rw [← same]
      exact letter_of_mem (List.mem_of_find?_eq_some found)
  · intro h
    cases h <;> decide

/-- The letter of a code is none of the others. -/
theorem Letter.ne_code {l : Char} (h : Letter l c) : l ≠ 'u' := by
  cases h <;> decide

theorem isLowSurrogate_iff {n : Nat} : isLowSurrogate n = true ↔ 0xDC00 ≤ n ∧ n ≤ 0xDFFF := by
  rw [isLowSurrogate, Bool.and_eq_true, decide_eq_true_eq, decide_eq_true_eq]

theorem isHighSurrogate_iff {n : Nat} : isHighSurrogate n = true ↔ 0xD800 ≤ n ∧ n ≤ 0xDBFF := by
  rw [isHighSurrogate, Bool.and_eq_true, decide_eq_true_eq, decide_eq_true_eq]

/-- A second half of a pair is read exactly where it stands. -/
theorem lowSurrogate_eq_ok_iff {high : Nat} :
    lowSurrogate high s = .ok (c, r) ↔
      ∃ h low, IsHex h low ∧ (0xDC00 ≤ low ∧ low ≤ 0xDFFF) ∧ c = pairedSurrogates high low ∧
        s = '\\' :: 'u' :: (h ++ r) := by
  constructor
  · intro h
    unfold lowSurrogate at h
    split at h
    · cases h
    · next t marked =>
      rw [letters_eq_ok_iff] at marked
      split at h
      · cases h
      · next low u four =>
        obtain ⟨digits, hex, rfl⟩ := hexFour_eq_ok_iff.1 four
        split at h
        · next isLow =>
          rw [Except.ok.injEq, Prod.mk.injEq] at h
          obtain ⟨rfl, rfl⟩ := h
          exact ⟨digits, low, hex, isLowSurrogate_iff.1 isLow, rfl, marked⟩
        · cases h
  · rintro ⟨digits, low, hex, isLow, same, rfl⟩
    have marked : letters .cutString .brokenPair ['\\', 'u'] ('\\' :: 'u' :: (digits ++ r)) =
        .ok (digits ++ r) := letters_eq_ok_iff.2 rfl
    have four : hexFour (digits ++ r) = .ok (low, r) := hexFour_eq_ok_iff.2 ⟨digits, hex, rfl⟩
    rw [lowSurrogate, marked]
    simp only [four, isLowSurrogate_iff.2 isLow, if_true, same]

/-- A code, alone or in a pair, is read exactly where it stands. -/
theorem codeEscape_eq_ok_iff :
    codeEscape s = .ok (c, r) ↔ ∃ e, Escape ('u' :: e) c ∧ s = e ++ r := by
  constructor
  · intro h
    unfold codeEscape at h
    split at h
    · cases h
    · next n t four =>
      obtain ⟨digits, hex, rfl⟩ := hexFour_eq_ok_iff.1 four
      split at h
      · cases h
      · next notLow =>
        rw [isLowSurrogate_iff] at notLow
        split at h
        · next isHigh =>
          rw [isHighSurrogate_iff] at isHigh
          obtain ⟨digits', low, hex', isLow, same, rfl⟩ := lowSurrogate_eq_ok_iff.1 h
          rw [same, pairedSurrogates]
          exact ⟨_, .pair hex isHigh hex' isLow, by simp⟩
        · next notHigh =>
          -- Neither half of a pair: together with `notLow`, a scalar value.
          rw [isHighSurrogate_iff] at notHigh
          rw [Except.ok.injEq, Prod.mk.injEq] at h
          obtain ⟨rfl, rfl⟩ := h
          exact ⟨_, .code hex (by omega), rfl⟩
  · rintro ⟨e, escape, rfl⟩
    cases escape with
    | letter meaning => exact absurd rfl meaning.ne_code
    | @code _ n hex scalar =>
        have four : hexFour (e ++ r) = .ok (n, r) := hexFour_eq_ok_iff.2 ⟨e, hex, rfl⟩
        have notLow : isLowSurrogate n = false := by
          rw [← Bool.not_eq_true, isLowSurrogate_iff]
          omega
        have notHigh : isHighSurrogate n = false := by
          rw [← Bool.not_eq_true, isHighSurrogate_iff]
          omega
        simp [codeEscape, four, notLow, notHigh]
    | @pair digits digits' high low hex isHigh hex' isLow =>
        have four : hexFour (digits ++ '\\' :: 'u' :: (digits' ++ r)) =
            .ok (high, '\\' :: 'u' :: (digits' ++ r)) := hexFour_eq_ok_iff.2 ⟨digits, hex, rfl⟩
        have notLow : isLowSurrogate high = false := by
          rw [← Bool.not_eq_true, isLowSurrogate_iff]
          omega
        have second : lowSurrogate high ('\\' :: 'u' :: (digits' ++ r)) =
            .ok (pairedSurrogates high low, r) :=
          lowSurrogate_eq_ok_iff.2 ⟨digits', low, hex', isLow, Eq.refl _, rfl⟩
        rw [pairedSurrogates] at second
        rw [List.append_assoc, List.cons_append, List.cons_append, codeEscape, four]
        simp only [notLow, isHighSurrogate_iff.2 isHigh, if_true, Bool.false_eq_true, if_false,
          second]

/-- An escape that starts like a code is one. -/
theorem Escape.eq_code {l : Char} {e : List Char} (h : Escape (l :: e) c) :
    l = 'u' ∨ (e = [] ∧ Letter l c) := by
  cases h with
  | letter meaning => exact .inr ⟨rfl, meaning⟩
  | code => exact .inl rfl
  | pair => exact .inl rfl

/-- **One escape**, after its backslash, is read exactly where it stands. -/
theorem readEscape_eq_ok_iff :
    readEscape s = .ok (c, r) ↔ ∃ e, Escape e c ∧ s = e ++ r := by
  constructor
  · intro h
    cases s with
    | nil => cases h
    | cons l s =>
        rw [readEscape] at h
        split at h
        · next code =>
          subst code
          obtain ⟨e, escape, rfl⟩ := codeEscape_eq_ok_iff.1 h
          exact ⟨_, escape, rfl⟩
        · split at h
          · next meaning =>
            cases h
            exact ⟨[l], .letter (escaped?_eq_some_iff.1 meaning), rfl⟩
          · cases h
  · rintro ⟨e, escape, rfl⟩
    cases e with
    | nil => cases escape
    | cons l e =>
        rw [List.cons_append, readEscape]
        obtain rfl | ⟨rfl, meaning⟩ := escape.eq_code
        · rw [if_pos rfl]
          exact codeEscape_eq_ok_iff.2 ⟨e, escape, rfl⟩
        · rw [if_neg meaning.ne_code, escaped?_eq_some_iff.2 meaning]
          rfl

/-- An escape is skipped exactly where it stands. -/
theorem skipEscape_eq_ok_iff : skipEscape s = .ok r ↔ ∃ e, RawEscape e ∧ s = e ++ r := by
  constructor
  · intro h
    cases s with
    | nil => cases h
    | cons l s =>
        rw [skipEscape] at h
        split at h
        · next code =>
          subst code
          split at h
          · next four =>
            cases h
            obtain ⟨digits, hex, rfl⟩ := hexFour_eq_ok_iff.1 four
            exact ⟨_, .code hex, rfl⟩
          · cases h
        · split at h
          · next meaning =>
            cases h
            exact ⟨[l], .letter (escaped?_eq_some_iff.1 meaning), rfl⟩
          · cases h
  · rintro ⟨e, escape, rfl⟩
    cases escape with
    | letter meaning =>
        show skipEscape (_ :: r) = _
        rw [skipEscape, if_neg meaning.ne_code, escaped?_eq_some_iff.2 meaning]
    | @code digits n hex =>
        have four : hexFour (digits ++ r) = .ok (n, r) := hexFour_eq_ok_iff.2 ⟨digits, hex, rfl⟩
        rw [List.cons_append, skipEscape, if_pos rfl, four]

/-! ## Whole literals -/

theorem plain_iff : Plain c ↔ c ≠ '"' ∧ c ≠ '\\' ∧ ¬ c.toNat < controlEnd := by
  rw [Plain, Nat.not_lt]
  rfl

/-- What `readString` read spells what it gathered. -/
theorem spells_of_readString {done : List Char} {text : String}
    (h : readString done s = .ok (text, r)) :
    ∃ body t, Spells body t ∧ text = String.ofList (done.reverse ++ t) ∧ s = body ++ '"' :: r := by
  fun_induction readString done s with
  | case1 => cases h
  | case2 done s =>
      cases h
      exact ⟨[], [], .nil, by rw [List.append_nil], rfl⟩
  | case3 done s d t taken _ _ ih =>
      obtain ⟨body, u, spells, rfl, rfl⟩ := ih h
      obtain ⟨e, escape, rfl⟩ := readEscape_eq_ok_iff.1 taken
      exact ⟨_, _, .escape escape spells, by simp, by simp⟩
  | case4 => cases h
  | case5 => cases h
  | case6 done c s quote backslash control ih =>
      obtain ⟨body, u, spells, rfl, rfl⟩ := ih h
      exact ⟨_, _, .plain (plain_iff.2 ⟨quote, backslash, control⟩) spells, by simp, rfl⟩

/-- What spells a text is read as that text, after what was gathered before. -/
theorem readString_of_spells {body t : List Char} (h : Spells body t) (done r : List Char) :
    readString done (body ++ '"' :: r) = .ok (String.ofList (done.reverse ++ t), r) := by
  induction h generalizing done with
  | nil => rw [List.nil_append, readString, if_pos rfl, List.append_nil]
  | plain self rest ih =>
      obtain ⟨quote, backslash, control⟩ := plain_iff.1 self
      rw [List.cons_append, readString, if_neg quote, if_neg backslash, if_neg control, ih]
      simp
  | @escape e s t c escaped rest ih =>
      have taken : readEscape (e ++ (s ++ '"' :: r)) = .ok (c, s ++ '"' :: r) :=
        readEscape_eq_ok_iff.2 ⟨e, escaped, rfl⟩
      rw [List.cons_append, List.append_assoc, readString, if_neg (by decide), if_pos rfl]
      -- The reader keeps the equation of its escape for termination, so it cannot be rewritten.
      split
      · next d u read =>
        rw [taken, Except.ok.injEq, Prod.mk.injEq] at read
        obtain ⟨rfl, rfl⟩ := read
        rw [ih]
        simp
      · next read =>
        rw [taken] at read
        cases read

/-- **A string literal**, after its opening quote, is read exactly where it stands. -/
theorem readString_eq_ok_iff {text : String} :
    readString [] s = .ok (text, r) ↔ ∃ v, IsLiteral v text ∧ '"' :: s = v ++ r := by
  constructor
  · intro h
    obtain ⟨body, t, spells, rfl, rfl⟩ := spells_of_readString h
    refine ⟨'"' :: (body ++ ['"']), ⟨body, rfl, ?_⟩, by simp⟩
    simpa using spells
  · rintro ⟨v, ⟨body, rfl, spells⟩, split⟩
    have rest : s = body ++ '"' :: r := by simpa using split
    rw [rest, readString_of_spells spells]
    simp

/-- **A string literal that nobody asks for**, after its opening quote, is skipped exactly where it
stands. -/
theorem skipString_eq_ok_iff :
    skipString s = .ok r ↔ ∃ v, IsRawLiteral v ∧ '"' :: s = v ++ r := by
  constructor
  · intro h
    -- The quotes are no part of the recursion, so they are put around its result.
    suffices ∃ body, Raw body ∧ s = body ++ '"' :: r by
      obtain ⟨body, raw, rfl⟩ := this
      exact ⟨_, ⟨body, rfl, raw⟩, by simp⟩
    fun_induction skipString s with
    | case1 => cases h
    | case2 s =>
        cases h
        exact ⟨[], .nil, rfl⟩
    | case3 s t taken _ _ ih =>
        obtain ⟨body, raw, rfl⟩ := ih h
        obtain ⟨e, escape, rfl⟩ := skipEscape_eq_ok_iff.1 taken
        exact ⟨_, .escape escape raw, by simp⟩
    | case4 => cases h
    | case5 => cases h
    | case6 c s quote backslash control ih =>
        obtain ⟨body, raw, rfl⟩ := ih h
        exact ⟨_, .plain (plain_iff.2 ⟨quote, backslash, control⟩) raw, rfl⟩
  · rintro ⟨v, ⟨body, rfl, raw⟩, split⟩
    have rest : s = body ++ '"' :: r := by simpa using split
    subst rest
    clear split
    induction raw with
    | nil => rw [List.nil_append, skipString, if_pos rfl]
    | plain self rest ih =>
        obtain ⟨quote, backslash, control⟩ := plain_iff.1 self
        rw [List.cons_append, skipString, if_neg quote, if_neg backslash, if_neg control, ih]
    | @escape e s escaped rest ih =>
        have taken : skipEscape (e ++ (s ++ '"' :: r)) = .ok (s ++ '"' :: r) :=
          skipEscape_eq_ok_iff.2 ⟨e, escaped, rfl⟩
        rw [List.cons_append, List.append_assoc, skipString, if_neg (by decide), if_pos rfl]
        split
        · next u skipped =>
          rw [taken, Except.ok.injEq] at skipped
          subst skipped
          exact ih
        · next skipped =>
          rw [taken] at skipped
          cases skipped

end Lexicon.Json
