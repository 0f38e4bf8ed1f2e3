import Lexicon.Proofs.Json.Numerals

/-!
# What stands between brackets

Arrays, objects and skipped values are read by three loops of one shape: ask whether another item
follows, take it, go on until the closing bracket.  `Contents b Item first s as r` is what such a
loop sees: `s` goes on with the items `as` up to the closing bracket of `b`, after which `r`
remains.  `first` tells whether an item has been taken before, since a comma stands in front of all
but one.

It is the loops' view of the grammar and says the same as `Enclosed`, which puts the commas between
the items at one stroke (`contents_iff_enclosed`).  The question itself is answered by
`Bracket.next`, whose two answers are the two constructors (`next_close`, `next_item`).
-/

namespace Lexicon.Json

variable {α : Type} {Item : List Char → α → Prop} {b : Bracket} {first : Bool}
variable {s t r : List Char} {c : Char}

/-- What stands in front of an item: blanks before the first, a comma among blanks before others. -/
def Separator : Bool → List Char → Prop
  | true, l => Blanks l
  | false, l => ∃ w w', Blanks w ∧ Blanks w' ∧ l = w ++ ',' :: w'

/-- Blanks after a separator belong to it. -/
theorem separator_append {l w : List Char} (h : Separator first l) (blanks : Blanks w) :
    Separator first (l ++ w) := by
  cases first with
  | true => exact blanks_append h blanks
  | false =>
      obtain ⟨w₁, w₂, before, after, rfl⟩ := h
      exact ⟨w₁, w₂ ++ w, before, blanks_append after blanks, by simp⟩

/-- **The contents of brackets, as a loop sees them**: the items `as`, then the closing bracket,
then `r`. -/
inductive Contents (b : Bracket) (Item : List Char → α → Prop) :
    Bool → List Char → List α → List Char → Prop
  | close {first : Bool} {w r : List Char} (blanks : Blanks w) :
      Contents b Item first (w ++ b.close :: r) [] r
  | item {first : Bool} {l v s r : List Char} {a : α} {as : List α} (separator : Separator first l)
      (item : Item v a) (rest : Contents b Item false s as r) :
      Contents b Item first (l ++ (v ++ s)) (a :: as) r

/-! ## The contents and the grammar -/

theorem intercalate_comma_cons (t : List Char) (ts : List (List Char)) :
    List.intercalate [','] (t :: ts) = t ++ ts.flatMap fun u => ',' :: u := by
  induction ts generalizing t with
  | nil => simp [List.intercalate]
  | cons u ts ih =>
      have next := ih u
      simp only [List.intercalate] at next ⊢
      rw [List.intersperse_cons_cons, List.flatten_cons, List.flatten_cons, next]
      simp

/-- After an item: its blanks, then each further item with a comma in front of it. -/
theorem contents_false_iff {as : List α} :
    Contents b Item false s as r ↔
      ∃ w texts, Blanks w ∧ List.Forall₂ (Spaced Item) texts as ∧
        s = w ++ ((texts.flatMap fun u => ',' :: u) ++ b.close :: r) := by
  constructor
  · intro h
    -- The recursion stays behind the first item, which the induction has to be told.
    generalize started : false = first at h
    induction h with
    | close blanks => exact ⟨_, [], blanks, .nil, rfl⟩
    | item separator item rest ih =>
        subst started
        obtain ⟨w, w', before, after, rfl⟩ := separator
        obtain ⟨u, texts, trailing, items, rfl⟩ := ih rfl
        exact ⟨w, _ :: texts, before, .cons ⟨w', _, u, rfl, after, item, trailing⟩ items, by simp⟩
  · rintro ⟨w, texts, blanks, items, rfl⟩
    induction items generalizing w with
    | nil => exact .close blanks
    | cons spaced items ih =>
        obtain ⟨w', v, u, rfl, before, item, after⟩ := spaced
        have separator : Separator false (w ++ ',' :: w') := ⟨w, w', blanks, before, rfl⟩
        have all := Contents.item separator item (ih u after)
        simpa using all

/-- **The loops' view is the grammar's**: contents after an opening bracket make brackets around
items. -/
theorem contents_iff_enclosed {as : List α} :
    Contents b Item true s as r ↔ ∃ v, Enclosed b Item v as ∧ b.opening :: s = v ++ r := by
  constructor
  · intro h
    cases h with
    | close blanks => exact ⟨_, .hollow blanks, by simp⟩
    | item separator item rest =>
        obtain ⟨w, texts, blanks, items, rfl⟩ := contents_false_iff.1 rest
        refine ⟨_, .filled (List.cons_ne_nil _ _)
          (.cons ⟨_, _, w, rfl, separator, item, blanks⟩ items), ?_⟩
        rw [intercalate_comma_cons]
        simp
  · rintro ⟨v, enclosed, same⟩
    cases enclosed with
    | @hollow w blanks =>
        have split : s = w ++ b.close :: r := by simpa using same
        rw [split]
        exact .close blanks
    | filled nonempty items =>
        -- The first item has its blanks to itself; a comma precedes each of the others.
        cases items with
        | nil => exact absurd rfl nonempty
        | @cons t _ texts _ spaced items =>
            obtain ⟨w, v, u, rfl, before, item, after⟩ := spaced
            have split :
                s = w ++ (v ++ (u ++ ((texts.flatMap fun t => ',' :: t) ++ b.close :: r))) := by
              rw [intercalate_comma_cons] at same
              simpa using same
            rw [split]
            exact .item before item (contents_false_iff.2 ⟨u, texts, after, items, rfl⟩)

theorem Enclosed.exists_opening {v : List Char} {as : List α} (h : Enclosed b Item v as) :
    ∃ t, v = b.opening :: t := by
  cases h with
  | hollow blanks => exact ⟨_, rfl⟩
  | filled nonempty items => exact ⟨_, rfl⟩

/-- After an item a value may end. -/
theorem Contents.ends {as : List α} (h : Contents b Item false s as r) : Ends s := by
  cases h with
  | close blanks => exact blanks.ends_append (ends_close b)
  | item separator item rest =>
      obtain ⟨w, w', before, after, rfl⟩ := separator
      rw [List.append_assoc]
      exact before.ends_append ends_comma

/-! ## Whether another item follows -/

/-- How an item starts: neither with a blank nor with a closing bracket. -/
def Starts (v : List Char) : Prop :=
  ∃ c t, v = c :: t ∧ isBlank c = false ∧ ∀ b : Bracket, c ≠ b.close

theorem starts_cons (t : List Char) (h : isBlank c = false ∧ c ≠ ']' ∧ c ≠ '}') :
    Starts (c :: t) := by
  refine ⟨c, t, rfl, h.1, fun b => ?_⟩
  cases b with
  | square => exact h.2.1
  | curly => exact h.2.2

theorem isBlank_close (b : Bracket) : isBlank b.close = false := by
  cases b <;> decide

theorem close_ne_comma (b : Bracket) : b.close ≠ ',' := by
  cases b <;> decide

theorem isBlank_opening (b : Bracket) : isBlank b.opening = false := by
  cases b <;> decide

theorem starts_of_enclosed {v : List Char} {as : List α} (h : Enclosed b Item v as) :
    Starts v := by
  obtain ⟨t, rfl⟩ := h.exists_opening
  exact starts_cons t (by cases b <;> decide)

/-- The closing bracket is taken with the blanks in front of it. -/
theorem finish_eq_ok_iff : b.finish s = .ok r ↔ ∃ w, Blanks w ∧ s = w ++ b.close :: r := by
  constructor
  · intro h
    obtain ⟨w, d, t, blanks, rfl, taken⟩ := exists_of_skipBlank h
    split at taken
    · next close =>
      cases taken
      exact ⟨w, blanks, by rw [close]⟩
    · split at taken
      · split at taken
        · cases taken
        · split at taken <;> cases taken
      · cases taken
  · rintro ⟨w, blanks, rfl⟩
    simp only [Bracket.finish, skipBlank_append blanks (isBlank_close b), if_true]

/-- In front of the closing bracket no item follows. -/
theorem next_close (b : Bracket) (first : Bool) {w : List Char} (blanks : Blanks w)
    (r : List Char) : b.next first (w ++ b.close :: r) = .ok none := by
  simp only [Bracket.next, skipBlank_append blanks (isBlank_close b), if_true]

/-- After a separator an item follows, if it starts like one. -/
theorem next_item {l : List Char} (separator : Separator first l) (notBlank : isBlank c = false)
    (notClose : c ≠ b.close) (t : List Char) :
    b.next first (l ++ c :: t) = .ok (some (c, t)) := by
  cases first with
  | true => simp [Bracket.next, skipBlank_append separator notBlank, notClose]
  | false =>
      obtain ⟨w, w', blanks, blanks', rfl⟩ := separator
      have comma : isBlank ',' = false := by decide
      have commaOpen := (close_ne_comma b).symm
      rw [List.append_assoc, List.cons_append]
      simp [Bracket.next, skipBlank_append blanks comma, skipBlank_append blanks' notBlank,
        notClose, commaOpen]

/-- An item follows only after a separator. -/
theorem item_of_next (h : b.next first s = .ok (some (c, t))) :
    ∃ l, Separator first l ∧ s = l ++ c :: t := by
  obtain ⟨w, d, u, blanks, rfl, taken⟩ := exists_of_skipBlank h
  split at taken
  · cases taken
  split at taken
  · next started =>
    cases taken
    subst started
    exact ⟨w, blanks, rfl⟩
  · next started =>
    split at taken
    · next comma =>
      obtain ⟨w', e, v, blanks', rfl, found⟩ := exists_of_skipBlank taken
      split at found
      · cases found
      · cases found
        rw [Bool.not_eq_true] at started
        subst started comma
        exact ⟨_, ⟨w, w', blanks, blanks', rfl⟩, by simp⟩
    · cases taken

end Lexicon.Json
