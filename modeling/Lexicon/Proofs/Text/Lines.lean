import Lexicon.Proofs.Text.Quoting
import Mathlib.Algebra.Ring.Parity
import Mathlib.Data.List.DropRight

/-!
# Lines that no text can break or forge

A line of a log mixes words of the program with texts from outside, which may be anything.  Whoever
reads it takes its quoted strings out from left to right, and a backslash inside of one takes the
next character along (`strings?`).  `Carries` says that such a reader finds the texts that were
quoted and no others, and that nothing in the line ends it early or hides: no control character and
none that has to be spelled out by its code point.

Lines are put together, so the property is proved of bare words, of a quoted text and of two lines
after one another (`carries_words`, `carries_quote`, `Carries.append`).  Of these only quoting has to
do with what a text holds.  A quote that is part of the text stands behind an odd number of
backslashes: the character before it may end in a backslash only together with another one, so an
even number of them precedes each character (`Form.even_backslashes`), and the quote brings one more.

## Main definitions

* `strings?` — the quoted strings of a line, as its reader finds them.
* `Guarded` — the quotes in a string stand behind odd numbers of backslashes.
* `Carries` — a line and the texts that can be read from it.
-/

namespace Lexicon.Text

/-! ## Reading a line -/

/-- Where the reader of a line stands. -/
inductive Place where
  /-- Between the quoted strings. -/
  | outside
  /-- In a quoted string, of which so much has been read. -/
  | inside (read : List Char)
  /-- There, right behind a backslash. -/
  | behind (read : List Char)

/-- **The quoted strings of a line**, without their quotes, if the last one is closed. -/
def strings? : Place → List Char → Option (List (List Char))
  | .outside, [] => some []
  | .outside, c :: rest =>
    if c = '"' then strings? (.inside []) rest else strings? .outside rest
  | .inside _, [] => none
  | .inside read, c :: rest =>
    if c = '"' then (strings? .outside rest).map (read :: ·)
    else if c = '\\' then strings? (.behind (read ++ [c])) rest
    else strings? (.inside (read ++ [c])) rest
  | .behind _, [] => none
  | .behind read, c :: rest => strings? (.inside (read ++ [c])) rest

section Reading

variable {c : Char} {read v w x : List Char} {found : List (List Char)}

/-- A line without quotes has no quoted strings. -/
theorem strings?_bare (h : '"' ∉ w) : strings? .outside w = some [] := by
  induction w with
  | nil => rfl
  | cons c w ih =>
      rw [List.mem_cons, not_or] at h
      rw [strings?, if_neg (Ne.symm h.1), ih h.2]

/-- **Reading goes on** behind a line whose strings are closed. -/
theorem strings?_append {place : Place} (h : strings? place w = some found) :
    strings? place (w ++ x) = (strings? .outside x).map (found ++ ·) := by
  induction w generalizing place found with
  | nil =>
      cases place with
      | outside =>
          cases h
          simp
      | inside read => cases h
      | behind read => cases h
  | cons c w ih =>
      rw [List.cons_append]
      cases place with
      | outside =>
          rw [strings?] at h ⊢
          split at h
          · rw [if_pos ‹_›, ih h]
          · rw [if_neg ‹_›, ih h]
      | inside read =>
          rw [strings?] at h ⊢
          split at h
          · obtain ⟨later, closed, rfl⟩ := Option.map_eq_some_iff.1 h
            rw [if_pos ‹_›, ih closed, Option.map_map]
            rfl
          · rw [if_neg ‹_›]
            split at h
            · rw [if_pos ‹_›, ih h]
            · rw [if_neg ‹_›, ih h]
      | behind read =>
          rw [strings?] at h ⊢
          rw [ih h]

/-- Inside a string, the characters that are neither quotes nor backslashes are read as they are. -/
theorem strings?_inside_append (plain : ∀ c ∈ w, c ≠ '"' ∧ c ≠ '\\') :
    strings? (.inside read) (w ++ x) = strings? (.inside (read ++ w)) x := by
  induction w generalizing read with
  | nil => rw [List.nil_append, List.append_nil]
  | cons c w ih =>
      rw [List.forall_mem_cons] at plain
      rw [List.cons_append, strings?, if_neg plain.1.1, if_neg plain.1.2, ih plain.2,
        List.append_assoc, List.singleton_append]

end Reading

/-! ## Backslashes -/

/-- The number of backslashes at the end of what is written. -/
def backslashes (before : List Char) : Nat :=
  (before.rtakeWhile (· == '\\')).length

@[simp]
theorem backslashes_nil : backslashes [] = 0 := by
  rw [backslashes, List.rtakeWhile_nil, List.length_nil]

@[simp]
theorem backslashes_concat_self (before : List Char) :
    backslashes (before ++ ['\\']) = backslashes before + 1 := by
  rw [backslashes, List.rtakeWhile_concat_pos _ _ _ (by decide), List.length_append,
    List.length_singleton, backslashes]

theorem backslashes_concat_of_ne {c : Char} (h : c ≠ '\\') (before : List Char) :
    backslashes (before ++ [c]) = 0 := by
  rw [backslashes, List.rtakeWhile_concat_neg _ _ _ (by simpa using h), List.length_nil]

/-- **Every quote is guarded**: it stands behind an odd number of backslashes. -/
def Guarded (inside : List Char) : Prop :=
  ∀ before after, inside = before ++ '"' :: after → Odd (backslashes before)

namespace Quoted

variable {c : Char} {read v x before after : List Char}

/-! ## One character -/

/-- A digit of a code point shows as itself and has no meaning to the reader. -/
theorem digit_plain {n : Nat} (h : c ∈ Nat.toDigits 16 n) :
    hidden c = false ∧ c ≠ '"' ∧ c ≠ '\\' := by
  obtain ⟨d, below, rfl⟩ := exists_digit_of_mem h
  have digits : ∀ d < 16, hidden (Nat.digitChar d) = false ∧ Nat.digitChar d ≠ '"' ∧
      Nat.digitChar d ≠ '\\' := by decide
  exact digits d below

/-- What stands behind the `u` of a code point is shown and has no meaning to the reader. -/
theorem codePoint_plain {d : Char}
    (h : d ∈ '{' :: (Nat.toDigits 16 c.toNat ++ ['}'])) :
    hidden d = false ∧ d ≠ '"' ∧ d ≠ '\\' := by
  rw [List.mem_cons, List.mem_append, List.mem_singleton] at h
  rcases h with rfl | listed | rfl
  · decide
  · exact digit_plain listed
  · decide

theorem letters_shown : ∀ p ∈ letters, hidden p.2 = false := by decide

/-- No form has a hidden character. -/
theorem Form.shown (h : Form c v) : ∀ d ∈ v, hidden d = false := by
  cases h with
  | letter listed =>
      rw [List.forall_mem_cons, List.forall_mem_singleton]
      exact ⟨by decide, letters_shown _ listed⟩
  | code isHidden =>
      rw [codePoint, List.cons_append, List.cons_append, List.cons_append,
        List.forall_mem_cons, List.forall_mem_cons]
      exact ⟨by decide, by decide, fun d listed => (codePoint_plain listed).1⟩
  | plain notQuote notBackslash shown => simpa using shown

/-- The reader of a string passes over the form of a character. -/
theorem Form.strings?_inside (h : Form c v) :
    strings? (.inside read) (v ++ x) = strings? (.inside (read ++ v)) x := by
  have backslash (l : Char) (x : List Char) :
      strings? (.inside read) ('\\' :: l :: x) = strings? (.inside (read ++ ['\\', l])) x := by
    rw [strings?, if_neg (by decide), if_pos rfl, strings?, List.append_assoc,
      List.singleton_append]
  cases h with
  | letter listed => exact backslash _ x
  | code isHidden =>
      have split : codePoint c = ['\\', 'u'] ++ '{' :: (Nat.toDigits 16 c.toNat ++ ['}']) := rfl
      rw [split, List.append_assoc, List.cons_append, List.cons_append, List.nil_append, backslash,
        strings?_inside_append fun d listed => (codePoint_plain listed).2, List.append_assoc]
  | plain notQuote notBackslash shown =>
      exact strings?_inside_append (by simpa using ⟨notQuote, notBackslash⟩)

/-- Behind an even number of backslashes a form leaves an even number of them: it ends in a
backslash only if it is two. -/
theorem Form.even_backslashes (h : Form c v) (even : Even (backslashes read)) :
    Even (backslashes (read ++ v)) := by
  cases h with
  | @letter l listed =>
      have split : read ++ ['\\', l] = read ++ ['\\'] ++ [l] := by simp
      rw [split]
      by_cases again : l = '\\'
      · rw [again, backslashes_concat_self, backslashes_concat_self, Nat.add_assoc]
        exact even.add even_two
      · rw [backslashes_concat_of_ne again]
        exact Even.zero
  | code isHidden =>
      rw [codePoint, ← List.append_assoc, backslashes_concat_of_ne (by decide)]
      exact Even.zero
  | plain notQuote notBackslash shown =>
      rw [backslashes_concat_of_ne notBackslash]
      exact Even.zero

/-- A form has a quote only behind its backslash. -/
theorem Form.before_quote (h : Form c v) (quoted : v = before ++ '"' :: after) :
    before = ['\\'] := by
  cases h with
  | @letter l listed =>
      cases before with
      | nil => simp at quoted
      | cons d before =>
          cases before with
          | nil => simpa using (List.cons.inj quoted).1.symm
          | cons e before => simp at quoted
  | code isHidden =>
      have unquoted : '"' ∉ codePoint c := by
        rw [codePoint, List.cons_append, List.cons_append, List.cons_append, List.mem_cons,
          List.mem_cons, not_or, not_or]
        exact ⟨by decide, by decide, fun listed => (codePoint_plain listed).2.1 rfl⟩
      exact absurd (quoted ▸ List.mem_append_right _ List.mem_cons_self) unquoted
  | plain notQuote notBackslash shown =>
      cases before with
      | nil => exact absurd (List.cons.inj quoted).1 notQuote
      | cons d before => simp at quoted

/-! ## A whole text -/

theorem encode_shown (s : List Char) : ∀ c ∈ encode s, hidden c = false := by
  intro c listed
  obtain ⟨d, -, member⟩ := List.mem_flatMap.1 listed
  exact (form_escape d).shown c member

/-- **The reader of a string passes over the whole text** and stops at the quote behind it. -/
theorem strings?_encode (s : List Char) :
    strings? (.inside read) (encode s ++ '"' :: x) =
      (strings? .outside x).map ((read ++ encode s) :: ·) := by
  induction s generalizing read with
  | nil => rw [encode_nil, List.nil_append, strings?, if_pos rfl, List.append_nil]
  | cons c s ih =>
      rw [encode_cons, List.append_assoc, (form_escape c).strings?_inside, ih, List.append_assoc]

/-- **The parity of the backslashes**: an even number precedes each character of a text, so an odd
number precedes a quote. -/
theorem odd_backslashes {s : List Char} (even : Even (backslashes read))
    (quoted : encode s = before ++ '"' :: after) : Odd (backslashes (read ++ before)) := by
  induction s generalizing read before with
  | nil => simp at quoted
  | cons c s ih =>
      rw [encode_cons, List.append_eq_append_iff] at quoted
      have form := form_escape c
      rcases quoted with ⟨inner, rfl, later⟩ | ⟨inner, here, later⟩
      · rw [← List.append_assoc]
        exact ih (form.even_backslashes even) later
      · cases inner with
        | nil =>
            rw [List.append_nil] at here
            subst here
            have later : encode s = [] ++ '"' :: after := later.symm
            simpa using ih (form.even_backslashes even) later
        | cons d inner =>
            obtain ⟨rfl, -⟩ := List.cons.inj later
            rw [form.before_quote here, backslashes_concat_self]
            exact even.add_one

theorem guarded_encode (s : List Char) : Guarded (encode s) := by
  intro before after quoted
  have none : Even (backslashes []) := by
    rw [backslashes_nil]
    exact Even.zero
  exact odd_backslashes none quoted

end Quoted

/-! ## Lines -/

/-- The control characters of ASCII. -/
def IsControl (c : Char) : Prop :=
  c.toNat < 0x20 ∨ c.toNat = 0x7f

/-- They are hidden, as all controls are. -/
theorem hidden_of_isControl {c : Char} (h : IsControl c) : hidden c = true := by
  have listed : ∃ range ∈ unprintable, range.1 ≤ c.toNat ∧ c.toNat ≤ range.2 := by
    rcases h with low | delete
    · exact ⟨(0x0, 0x1f), by decide, by omega, by omega⟩
    · exact ⟨(0x7f, 0xa0), by decide, by omega, by omega⟩
  exact hidden_iff.2 (.inr listed)

/-- **A line carries texts**: it shows all of them, each as a quoted string, and nothing that a text
holds can end the line, hide in it or pass for a part of it. -/
structure Carries (line : String) (texts : List String) : Prop where
  /-- No character of the line is a control. -/
  noControl : ∀ c ∈ line.toList, ¬ IsControl c
  /-- Nor is any other one hidden. -/
  shown : ∀ c ∈ line.toList, hidden c = false
  /-- The quoted strings of the line are the texts, in their order. -/
  strings : strings? .outside line.toList = some (texts.map fun s => Quoted.encode s.toList)
  /-- Inside each of them every quote stands behind an odd number of backslashes. -/
  guarded : ∀ inside ∈ texts.map fun s => Quoted.encode s.toList, Guarded inside

section Lines

variable {line more : String} {texts others : List String}

/-- What is quoted is guarded and controls are hidden, so two of the clauses are left to show. -/
theorem carries_of_strings (shown : ∀ c ∈ line.toList, hidden c = false)
    (strings : strings? .outside line.toList =
      some (texts.map fun s => Quoted.encode s.toList)) : Carries line texts where
  noControl c listed control := by
    have revealed := shown c listed
    rw [hidden_of_isControl control] at revealed
    cases revealed
  shown := shown
  strings := strings
  guarded := by
    intro inside listed
    obtain ⟨s, -, rfl⟩ := List.mem_map.1 listed
    exact Quoted.guarded_encode s.toList

/-- Words are bare if none of their characters is a quote or hidden. -/
def Bare (words : String) : Prop :=
  ∀ c ∈ words.toList, hidden c = false ∧ c ≠ '"'

instance (words : String) : Decidable (Bare words) :=
  -- Not by search: all characters there are would be tried, not only those of the words.
  List.decidableBAll (fun c => hidden c = false ∧ c ≠ '"') words.toList

/-- Bare words carry nothing. -/
theorem carries_words {words : String} (bare : Bare words) : Carries words [] :=
  carries_of_strings (fun c listed => (bare c listed).1)
    (strings?_bare fun listed => (bare _ listed).2 rfl)

/-- A quoted text carries itself. -/
theorem carries_quote (s : String) : Carries (quote s) [s] := by
  refine carries_of_strings ?_ ?_
  · intro c listed
    rw [toList_quote, List.mem_cons, List.mem_append, List.mem_singleton] at listed
    rcases listed with rfl | listed | rfl
    · decide
    · exact Quoted.encode_shown _ c listed
    · decide
  · rw [toList_quote, strings?, if_pos rfl, Quoted.strings?_encode, List.nil_append]
    rfl

example : strings? .outside (quote "a\" as \"").toList = some ["a\\\" as \\\"".toList] := by
  decide

/-- **Lines after one another** carry what each of them does. -/
theorem Carries.append (first : Carries line texts) (second : Carries more others) :
    Carries (line ++ more) (texts ++ others) := by
  refine carries_of_strings ?_ ?_
  · intro c listed
    rw [String.toList_append, List.mem_append] at listed
    exact listed.elim (first.shown c) (second.shown c)
  · rw [String.toList_append, strings?_append first.strings, second.strings, List.map_append]
    rfl

/-- A record of two fields carries what its values carry. -/
theorem Carries.braced_pair {a b : String} (first : Carries line texts)
    (second : Carries more others) (bareA : Bare a) (bareB : Bare b) :
    Carries (braced [(a, line), (b, more)]) (texts ++ others) := by
  have field {name value : String} {carried : List String} (bare : Bare name)
      (shown : Carries value carried) : Carries (name ++ ": " ++ value) carried :=
    ((carries_words bare).append (carries_words (by decide))).append shown
  have comma : Carries ", " [] := carries_words (by decide)
  have fields := ((field bareA first).append comma).append (field bareB second)
  rw [Text.braced_pair]
  have opening : Carries (String.singleton '{' ++ " ") [] := carries_words (by decide)
  have space : Carries " " [] := carries_words (by decide)
  have closing : Carries (String.singleton '}') [] := carries_words (by decide)
  have whole := ((opening.append fields).append space).append closing
  simpa only [List.nil_append, List.append_nil, String.append_assoc] using whole

end Lines

end Lexicon.Text
