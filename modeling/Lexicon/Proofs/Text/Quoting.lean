import Lexicon.Text.Quoted

/-!
# A quoted text can be read back

Two texts are never quoted alike, and where a quoted text ends can be told from what is written,
whatever follows it (`quote_append_inj`).  So a line that shows several texts, or a text among other
words, means one thing.

One character has one of three forms: a letter behind a backslash, its code point in braces behind a
backslash, or itself (`Form`).  No form continues another, since the letters are not the `u` of a
code point and no digit is a brace; and none starts with a quote, so the first bare quote is the
closing one.

## Main definitions

* `Form` — the forms in which a character is written.
-/

namespace Lexicon.Text

/-! ## What stands before a character -/

section Before

variable {sep : Char} {u v x y : List Char}

/-- Up to the first `sep` stands what is written before it, if that has none. -/
theorem takeWhile_before (h : sep ∉ u) : (u ++ sep :: x).takeWhile (· != sep) = u := by
  have others : ∀ c ∈ u, (c != sep) = true := fun c listed =>
    bne_iff_ne.2 fun same => h (same ▸ listed)
  rw [List.takeWhile_append_of_pos others, List.takeWhile_cons_of_neg (by simp), List.append_nil]

theorem append_sep_inj (hu : sep ∉ u) (hv : sep ∉ v) (h : u ++ sep :: x = v ++ sep :: y) :
    u = v ∧ x = y := by
  have before : u = v := by rw [← takeWhile_before hu, h, takeWhile_before hv]
  subst before
  exact ⟨rfl, (List.cons.inj (List.append_cancel_left h)).2⟩

end Before

namespace Quoted

variable {c d : Char} {v w x y : List Char}

/-! ## Code points -/

/-- The last digit is the remainder; the digits before it, if there are any, are those of the
quotient. -/
theorem toDigits_eq_append (n : Nat) :
    ∃ front, Nat.toDigits 16 n = front ++ [Nat.digitChar (n % 16)] ∧
      (front = [] ∧ n / 16 = 0 ∨ front = Nat.toDigits 16 (n / 16) ∧ n / 16 < n) := by
  by_cases small : n < 16
  · refine ⟨[], ?_, .inl ⟨rfl, Nat.div_eq_of_lt small⟩⟩
    rw [Nat.toDigits_of_lt_base small, Nat.mod_eq_of_lt small, List.nil_append]
  · have large : 16 ≤ n := Nat.le_of_not_lt small
    exact ⟨_, Nat.toDigits_of_base_le (by decide) large, .inr ⟨rfl, by omega⟩⟩

/-- The digits of a number are those below sixteen. -/
theorem exists_digit_of_mem {n : Nat} (h : c ∈ Nat.toDigits 16 n) :
    ∃ d < 16, c = Nat.digitChar d := by
  induction n using Nat.strongRecOn with
  | ind n ih =>
      obtain ⟨front, digits, cases⟩ := toDigits_eq_append n
      rw [digits, List.mem_append, List.mem_singleton] at h
      rcases h with listed | last
      · rcases cases with ⟨rfl, -⟩ | ⟨rfl, smaller⟩
        · cases listed
        · exact ih _ smaller listed
      · exact ⟨n % 16, Nat.mod_lt _ (by decide), last⟩

/-- No digit is the brace that ends a code point. -/
theorem brace_notMem_toDigits (n : Nat) : '}' ∉ Nat.toDigits 16 n := by
  intro listed
  obtain ⟨d, below, same⟩ := exists_digit_of_mem listed
  have none : ∀ d < 16, '}' ≠ Nat.digitChar d := by decide
  exact none d below same

theorem digitChar_inj : ∀ d < 16, ∀ e < 16, Nat.digitChar d = Nat.digitChar e → d = e := by
  decide

/-- Numbers with the same digits are the same. -/
theorem toDigits_inj {m n : Nat} (h : Nat.toDigits 16 m = Nat.toDigits 16 n) : m = n := by
  induction m using Nat.strongRecOn generalizing n with
  | ind m ih =>
      obtain ⟨frontM, digitsM, caseM⟩ := toDigits_eq_append m
      obtain ⟨frontN, digitsN, caseN⟩ := toDigits_eq_append n
      rw [digitsM, digitsN] at h
      obtain ⟨fronts, lasts⟩ := List.append_inj' h rfl
      have remainders : m % 16 = n % 16 :=
        digitChar_inj _ (Nat.mod_lt _ (by decide)) _ (Nat.mod_lt _ (by decide))
          (List.singleton_inj.1 lasts)
      -- Only a zero quotient has no digits before the last one.
      have quotients : m / 16 = n / 16 := by
        rcases caseM with ⟨rfl, zeroM⟩ | ⟨rfl, smaller⟩ <;>
          rcases caseN with ⟨rfl, zeroN⟩ | ⟨rfl, -⟩
        · rw [zeroM, zeroN]
        · exact absurd fronts.symm Nat.toDigits_ne_nil
        · exact absurd fronts Nat.toDigits_ne_nil
        · exact ih _ smaller fronts
      omega

/-! ## Forms -/

/-- The characters with a letter of their own behind a backslash. -/
def letters : List (Char × Char) :=
  [('"', '"'), ('\\', '\\'), ('\n', 'n'), ('\r', 'r'), ('\t', 't'), ('\x00', '0')]

/-- **The forms of a character** inside quotes. -/
inductive Form : Char → List Char → Prop where
  | letter {c l : Char} (listed : (c, l) ∈ letters) : Form c ['\\', l]
  | code {c : Char} (isHidden : hidden c = true) : Form c (codePoint c)
  | plain {c : Char} (notQuote : c ≠ '"') (notBackslash : c ≠ '\\') (shown : hidden c = false) :
    Form c [c]

/-- A character is written in one of its forms. -/
theorem form_escape (c : Char) : Form c (escape c) := by
  by_cases lettered : ∃ l, (c, l) ∈ letters
  · obtain ⟨l, listed⟩ := lettered
    have written : ∀ p ∈ letters, escape p.1 = ['\\', p.2] := by decide
    rw [written _ listed]
    exact .letter listed
  · -- The definition asks for these six characters one by one before it comes to the other forms.
    simp only [letters, List.mem_cons, Prod.mk.injEq, List.not_mem_nil, or_false, exists_or,
      exists_and_left, exists_eq, and_true, not_or] at lettered
    obtain ⟨notQuote, notBackslash, notNewline, notReturn, notTab, notNul⟩ := lettered
    rw [escape, if_neg notQuote, if_neg notBackslash, if_neg notNewline, if_neg notReturn,
      if_neg notTab, if_neg notNul]
    cases shown : hidden c with
    | true => exact .code shown
    | false => exact .plain notQuote notBackslash shown

/-- No form starts with a quote. -/
theorem Form.append_ne_quote (h : Form c v) : v ++ x ≠ '"' :: y := by
  cases h with
  | letter listed => exact nofun
  | code isHidden => exact nofun
  | plain notQuote notBackslash shown =>
      intro same
      exact notQuote (List.cons.inj same).1

theorem letter_inj : ∀ p ∈ letters, ∀ q ∈ letters, p.2 = q.2 → p = q := by
  decide

/-- The letters are none that starts a code point. -/
theorem letter_ne_u : ∀ p ∈ letters, p.2 ≠ 'u' := by
  decide

/-- A code point ends at its brace. -/
theorem codePoint_append_inj (h : codePoint c ++ x = codePoint d ++ y) : c = d ∧ x = y := by
  have digits : Nat.toDigits 16 c.toNat ++ '}' :: x = Nat.toDigits 16 d.toNat ++ '}' :: y := by
    simpa [codePoint] using h
  obtain ⟨same, rest⟩ := append_sep_inj (brace_notMem_toDigits _) (brace_notMem_toDigits _) digits
  exact ⟨Char.toNat_inj.1 (toDigits_inj same), rest⟩

/-- **No form continues another**: what follows a character can be told from what is written. -/
theorem Form.append_inj (hc : Form c v) (hd : Form d w) (h : v ++ x = w ++ y) :
    c = d ∧ x = y := by
  cases hc with
  | letter listed =>
      cases hd with
      | letter listed' =>
          simp only [List.cons_append, List.nil_append, List.cons.injEq, true_and] at h
          have pairs := letter_inj _ listed _ listed' h.1
          exact ⟨congrArg Prod.fst pairs, h.2⟩
      | code isHidden =>
          simp only [codePoint, List.cons_append, List.cons.injEq, true_and] at h
          exact absurd h.1 (letter_ne_u _ listed)
      | plain notQuote notBackslash shown => exact absurd (List.cons.inj h).1.symm notBackslash
  | code isHidden =>
      cases hd with
      | letter listed =>
          simp only [codePoint, List.cons_append, List.cons.injEq, true_and] at h
          exact absurd h.1.symm (letter_ne_u _ listed)
      | code isHidden' => exact codePoint_append_inj h
      | plain notQuote notBackslash shown => exact absurd (List.cons.inj h).1.symm notBackslash
  | plain notQuote notBackslash shown =>
      cases hd with
      | letter listed => exact absurd (List.cons.inj h).1 notBackslash
      | code isHidden => exact absurd (List.cons.inj h).1 notBackslash
      | plain notQuote' notBackslash' shown' => exact List.cons.inj h

/-- **A quoted text ends at the first bare quote.** -/
theorem encode_append_inj {s t : List Char} (h : encode s ++ '"' :: x = encode t ++ '"' :: y) :
    s = t ∧ x = y := by
  induction s generalizing t with
  | nil =>
      cases t with
      | nil => exact ⟨rfl, (List.cons.inj h).2⟩
      | cons d t =>
          rw [encode_cons, List.append_assoc] at h
          exact absurd h.symm (form_escape d).append_ne_quote
  | cons c s ih =>
      rw [encode_cons, List.append_assoc] at h
      cases t with
      | nil => exact absurd h (form_escape c).append_ne_quote
      | cons d t =>
          rw [encode_cons, List.append_assoc] at h
          obtain ⟨rfl, rest⟩ := (form_escape c).append_inj (form_escape d) h
          obtain ⟨rfl, same⟩ := ih rest
          exact ⟨rfl, same⟩

end Quoted

/-! ## Quoted texts -/

theorem toList_quote (s : String) : (quote s).toList = '"' :: (Quoted.encode s.toList ++ ['"']) := by
  rw [quote, String.toList_ofList, List.cons_append]

/-- **A quoted text can be told from what follows it**, and so can what was quoted. -/
theorem quote_append_inj {s t : String} {x y : List Char}
    (h : (quote s).toList ++ x = (quote t).toList ++ y) : s = t ∧ x = y := by
  have written : Quoted.encode s.toList ++ '"' :: x = Quoted.encode t.toList ++ '"' :: y := by
    simpa [toList_quote] using h
  obtain ⟨same, rest⟩ := Quoted.encode_append_inj written
  exact ⟨String.toList_inj.1 same, rest⟩

/-- In particular no two texts are quoted alike. -/
theorem quote_inj {s t : String} (h : quote s = quote t) : s = t := by
  have texts : (quote s).toList ++ [] = (quote t).toList ++ [] := by rw [h]
  exact (quote_append_inj texts).1

end Lexicon.Text
