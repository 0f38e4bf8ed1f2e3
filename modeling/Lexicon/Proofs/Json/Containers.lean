import Lexicon.Proofs.Json.Recognition

/-!
# Readers of arrays and objects

What stands between brackets is read by a `Content`, and `Content.Recognises` says which contents it
accepts: an equivalence, because the closing bracket ends them.  The array of equal items, the
record in its two forms and the members of an object each get their language here.

The members of an object are read into a state, by a visitor that decides for each key how its value
is read.  `Visits` is that reading as a relation: from a state over a list of members to a state,
one member at a time.  It forgets the text, so what a record makes of its members is a question
about a list.
-/

namespace Lexicon.Json

variable {α σ ι : Type} {s t r : List Char} {b : Bracket}

/-- **A content is recognised**: up to the closing bracket it accepts the items that `P` gives to a
value, and nothing else. -/
def Content.Recognises (content : Content α) (b : Bracket) (Item : List Char → ι → Prop)
    (P : List ι → α → Prop) : Prop :=
  ∀ s a r, b.enclosed content s = .ok (a, r) ↔ ∃ items, Contents b Item true s items r ∧ P items a

theorem enclosed_eq_ok_iff {content : Content α} {a : α} :
    b.enclosed content s = .ok (a, r) ↔
      ∃ t, content.read s = .ok (a, t) ∧ b.finish t = .ok r := by
  constructor
  · intro h
    unfold Bracket.enclosed at h
    split at h
    · cases h
    · next read =>
      split at h
      · next closed =>
        cases h
        exact ⟨_, read, closed⟩
      · cases h
  · rintro ⟨t, read, closed⟩
    simp only [Bracket.enclosed, read, closed]

/-- A recognised content after blanks and the opening bracket makes a value. -/
theorem Content.Recognises.sound {content : Content α} {Item : List Char → ι → Prop}
    {P : List ι → α → Prop} (h : content.Recognises b Item P) {w : List Char} {a : α}
    (blanks : Blanks w) (read : b.enclosed content s = .ok (a, r)) :
    ∃ w' v items, Blanks w' ∧ Enclosed b Item v items ∧ P items a ∧
      w ++ b.opening :: s = w' ++ (v ++ r) := by
  obtain ⟨items, contents, value⟩ := (h s a r).1 read
  obtain ⟨v, enclosed, split⟩ := contents_iff_enclosed.1 contents
  exact ⟨w, v, items, blanks, enclosed, value, by rw [split]⟩

/-- And every such value is read. -/
theorem Content.Recognises.complete {content : Content α} {Item : List Char → ι → Prop}
    {P : List ι → α → Prop} (h : content.Recognises b Item P) {v : List Char} {items : List ι} {a :
    α} (enclosed : Enclosed b Item v items) (value : P items a) (r : List Char) :
    ∃ t, v = b.opening :: t ∧ b.enclosed content (t ++ r) = .ok (a, r) := by
  obtain ⟨t, rfl⟩ := enclosed.exists_opening
  exact ⟨t, rfl, (h _ a r).2 ⟨items, contents_iff_enclosed.2 ⟨_, enclosed, rfl⟩, value⟩⟩

/-! ## Arrays of equal items -/

section Items

variable {item : Reader α} {L : Language α}

theorem contents_of_items (h : Recognises item L) {done as : List α}
    (read : items item done s = .ok (as, t)) (closed : Bracket.square.finish t = .ok r) :
    ∃ elements bs, as = done.reverse ++ bs ∧
      Contents .square Eq done.isEmpty s elements r ∧ List.Forall₂ L elements bs := by
  fun_induction items item done s with
  | case1 => cases read
  | case2 done s found =>
      cases read
      obtain ⟨w, blanks, rfl⟩ := finish_eq_ok_iff.1 closed
      exact ⟨[], [], by rw [List.append_nil], .close blanks, .nil⟩
  | case3 => cases read
  | case4 done s c t found a u taken _ _ ih =>
      obtain ⟨l, separator, rfl⟩ := item_of_next found
      obtain ⟨w, v, blanks, value, split⟩ := h.sound taken
      obtain ⟨elements, bs, rfl, contents, values⟩ := ih read
      refine ⟨v :: elements, a :: bs, by simp, ?_, .cons value values⟩
      rw [split, ← List.append_assoc]
      exact .item (separator_append separator blanks) rfl contents

theorem items_of_contents (h : Recognises item L) {elements : List (List Char)} {bs : List α}
    (values : List.Forall₂ L elements bs) (done : List α)
    (contents : Contents .square Eq done.isEmpty s elements r) :
    ∃ t, items item done s = .ok (done.reverse ++ bs, t) ∧ Bracket.square.finish t = .ok r := by
  induction values generalizing s done with
  | nil =>
      cases contents with
      | close blanks =>
          rw [items_eq, next_close .square done.isEmpty blanks]
          exact ⟨_, by rw [List.append_nil], finish_eq_ok_iff.2 ⟨_, blanks, rfl⟩⟩
  | @cons v a elements bs value values ih =>
      cases contents with
      | item separator same rest =>
          subst same
          obtain ⟨c, t, rfl, notBlank, notClose⟩ := h.starts value
          -- The blanks went with the separator, and what follows an item lets it end.
          have taken := h.complete blanks_nil value rest.ends
          rw [List.nil_append, List.cons_append] at taken
          obtain ⟨u, read, closed⟩ := ih (a :: done) rest
          refine ⟨u, ?_, closed⟩
          rw [items_eq, List.cons_append, next_item separator notBlank (notClose .square)]
          simp only [taken, read]
          simp

/-- The language of an array: elements of one language. -/
def IsList (L : Language α) : Language (List α) := fun v as =>
  ∃ elements, IsArray v elements ∧ List.Forall₂ L elements as

theorem recognises_items (h : Recognises item L) :
    Content.Recognises ⟨items item [], length_le_of_items⟩ .square Eq (List.Forall₂ L) := by
  intro s as r
  rw [enclosed_eq_ok_iff]
  constructor
  · rintro ⟨t, read, closed⟩
    obtain ⟨elements, bs, rfl, contents, values⟩ := contents_of_items h read closed
    exact ⟨elements, contents, values⟩
  · rintro ⟨elements, contents, values⟩
    exact items_of_contents h values [] contents

theorem Recognises.list (h : Recognises item L) : Recognises (list item) (IsList L) where
  starts := by
    rintro v as ⟨elements, array, -⟩
    exact starts_of_enclosed array
  sound := by
    intro s as r read
    obtain ⟨w, c, t, blanks, rfl, taken⟩ := exists_of_skipBlank read
    split at taken
    · next same =>
      subst same
      obtain ⟨w', v, elements, blanks', array, values, split⟩ :=
        (recognises_items h).sound blanks taken
      exact ⟨w', v, blanks', ⟨elements, array, values⟩, split⟩
    · exact absurd taken mistyped_ne_ok
  complete := by
    rintro w v as r blanks ⟨elements, array, values⟩ -
    obtain ⟨t, rfl, read⟩ := (recognises_items h).complete array values r
    have notBlank := isBlank_opening .square
    simp only [Json.list, List.cons_append, skipBlank_append blanks notBlank, read]
    rfl

end Items

/-! ## Records -/

/-- The language of a record: one of arrays and one of objects. -/
def IsRecord (ofElements : List (List Char) → α → Prop)
    (ofMembers : List (String × List Char) → α → Prop) : Language α := fun v a =>
  (∃ elements, IsArray v elements ∧ ofElements elements a) ∨
    ∃ members, IsObject v members ∧ ofMembers members a

theorem recognises_record {ofArray ofObject : Content α}
    {ofElements : List (List Char) → α → Prop} {ofMembers : List (String × List Char) → α → Prop}
    (name : String) (array : ofArray.Recognises .square Eq ofElements)
    (object : ofObject.Recognises .curly IsMember ofMembers) :
    Recognises (record name ofArray ofObject) (IsRecord ofElements ofMembers) where
  starts := by
    rintro v a (⟨elements, isArray, -⟩ | ⟨members, isObject, -⟩)
    · exact starts_of_enclosed isArray
    · exact starts_of_enclosed isObject
  sound := by
    intro s a r read
    obtain ⟨w, c, t, blanks, rfl, taken⟩ := exists_of_skipBlank read
    split at taken
    · next same =>
      subst same
      obtain ⟨w', v, elements, blanks', isArray, value, split⟩ := array.sound blanks taken
      exact ⟨w', v, blanks', .inl ⟨elements, isArray, value⟩, split⟩
    split at taken
    · next same =>
      subst same
      obtain ⟨w', v, members, blanks', isObject, value, split⟩ := object.sound blanks taken
      exact ⟨w', v, blanks', .inr ⟨members, isObject, value⟩, split⟩
    · exact absurd taken mistyped_ne_ok
  complete := by
    rintro w v a r blanks (⟨elements, isArray, value⟩ | ⟨members, isObject, value⟩) -
    · obtain ⟨t, rfl, read⟩ := array.complete isArray value r
      simp only [record, List.cons_append, skipBlank_append blanks (isBlank_opening _), read]
      rfl
    · obtain ⟨t, rfl, read⟩ := object.complete isObject value r
      simp only [record, List.cons_append, skipBlank_append blanks (isBlank_opening _), read]
      rfl

/-- A field of a record that is written as an array: what is read is an element. -/
theorem element_of_field {reader : Reader α} {L : Language α} (h : Recognises reader L)
    {name : String} {fields index : Nat} {a : α}
    (read : field name fields index reader s = .ok (a, r)) :
    ∃ l v, Separator (index == 0) l ∧ L v a ∧ s = l ++ (v ++ r) := by
  unfold field at read
  split at read
  · cases read
  · cases read
  · next c t found =>
    obtain ⟨l, separator, rfl⟩ := item_of_next found
    obtain ⟨w, v, blanks, value, split⟩ := h.sound read
    exact ⟨l ++ w, v, separator_append separator blanks, value, by rw [split, List.append_assoc]⟩

/-- And every element is read. -/
theorem field_append {reader : Reader α} {L : Language α} (h : Recognises reader L)
    (name : String) (fields index : Nat) {l v : List Char} {a : α}
    (separator : Separator (index == 0) l) (value : L v a) (ends : Ends r) :
    field name fields index reader (l ++ (v ++ r)) = .ok (a, r) := by
  obtain ⟨c, t, rfl, notBlank, notClose⟩ := h.starts value
  have taken := h.complete blanks_nil value ends
  rw [field, List.cons_append, next_item separator notBlank (notClose .square)]
  exact taken

/-! ## Members of objects -/

section Members

variable {visit : Visitor σ} {L : σ → String → Language σ} {first : Bool} {state out : σ}

/-- **Members as a visitor takes them**, from one state to another; `L` gives the language of the
values for each state and key. -/
inductive Visits (visit : Visitor σ) (L : σ → String → Language σ) :
    σ → List (String × List Char) → σ → Prop
  | nil {state : σ} : Visits visit L state [] state
  | cons {state next last : σ} {key : String} {v : List Char} {members : List (String × List Char)}
      {reader : Reader σ} (accepted : visit state key = .ok reader) (value : L state key v next)
      (rest : Visits visit L next members last) : Visits visit L state ((key, v) :: members) last

theorem visits_nil_iff : Visits visit L state [] out ↔ out = state := by
  constructor
  · intro h
    cases h
    rfl
  · rintro rfl
    exact .nil

theorem visits_cons_iff {key : String} {v : List Char} {ms : List (String × List Char)} :
    Visits visit L state ((key, v) :: ms) out ↔
      ∃ next, ((∃ reader, visit state key = .ok reader) ∧ L state key v next) ∧
        Visits visit L next ms out := by
  constructor
  · intro h
    cases h with
    | cons accepted value rest => exact ⟨_, ⟨⟨_, accepted⟩, value⟩, rest⟩
  · rintro ⟨next, ⟨⟨reader, accepted⟩, value⟩, rest⟩
    exact .cons accepted value rest

/-- **One turn**: behind its separator, key and colon, an accepted member is left to the reader of
its value. -/
theorem members_read_member {l m v : List Char} {key : String} {reader : Reader σ}
    (separator : Separator first l) (member : IsMember m (key, v))
    (accepted : visit state key = .ok reader) (u : List Char) :
    ∃ w, Blanks w ∧
      members visit first state (l ++ (m ++ u)) =
        match reader.read (w ++ (v ++ u)) with
        | .error e => .error e
        | .ok (next, r) => members visit false next r := by
  obtain ⟨k, w, w', rfl, ⟨body, rfl, spells⟩, blanks, blanks'⟩ := member
  refine ⟨w', blanks', ?_⟩
  have found : Bracket.curly.next first
      (l ++ '"' :: (body ++ '"' :: (w ++ ':' :: (w' ++ (v ++ u))))) =
      .ok (some ('"', body ++ '"' :: (w ++ ':' :: (w' ++ (v ++ u))))) :=
    next_item separator isBlank_quote (by decide) _
  have name : readString [] (body ++ '"' :: (w ++ ':' :: (w' ++ (v ++ u)))) =
      .ok (key, w ++ ':' :: (w' ++ (v ++ u))) :=
    readString_eq_ok_iff.2 ⟨_, ⟨body, rfl, spells⟩, by simp⟩
  have separated : colon (w ++ ':' :: (w' ++ (v ++ u))) = .ok (w' ++ (v ++ u)) :=
    colon_eq_ok_iff.2 ⟨w, blanks, rfl⟩
  simp only [List.append_assoc, List.cons_append, List.nil_append]
  rw [members_eq]
  cases taken : reader.read (w' ++ (v ++ u)) with
  | error e => simp only [found, if_true, name, accepted, separated, taken]
  | ok read => simp only [found, if_true, name, accepted, separated, taken]

variable (h : ∀ {state key reader}, visit state key = .ok reader → Recognises reader (L state key))

include h

theorem contents_of_members (read : members visit first state s = .ok (out, t))
    (closed : Bracket.curly.finish t = .ok r) :
    ∃ ms, Contents .curly IsMember first s ms r ∧ Visits visit L state ms out := by
  fun_induction members visit first state s with
  | case1 => cases read
  | case2 first state s found =>
      cases read
      obtain ⟨w, blanks, rfl⟩ := finish_eq_ok_iff.1 closed
      exact ⟨[], .close blanks, .nil⟩
  | case3 => cases read
  | case4 => cases read
  | case5 => cases read
  | case6 => cases read
  | case7 first state s t name u key reader accepted x separated next y taken _ _ _ found _ ih =>
      obtain ⟨l, separator, rfl⟩ := item_of_next found
      obtain ⟨k, literal, split⟩ := readString_eq_ok_iff.1 key
      obtain ⟨w, blanks, rfl⟩ := colon_eq_ok_iff.1 separated
      obtain ⟨w', v, blanks', value, rfl⟩ := (h accepted).sound taken
      obtain ⟨ms, contents, visits⟩ := ih read
      refine ⟨(name, v) :: ms, ?_, .cons accepted value visits⟩
      have member : IsMember (k ++ (w ++ ':' :: (w' ++ v))) (name, v) :=
        ⟨k, w, w', rfl, literal, blanks, blanks'⟩
      rw [split]
      simpa using Contents.item separator member contents
  | case8 => cases read

theorem members_of_contents {ms : List (String × List Char)}
    (contents : Contents .curly IsMember first s ms r) (visits : Visits visit L state ms out) :
    ∃ t, members visit first state s = .ok (out, t) ∧ Bracket.curly.finish t = .ok r := by
  induction visits generalizing first s with
  | nil =>
      cases contents with
      | close blanks =>
          rw [members_eq, next_close .curly first blanks]
          exact ⟨_, rfl, finish_eq_ok_iff.2 ⟨_, blanks, rfl⟩⟩
  | @cons state next last key v ms reader accepted value visits ih =>
      cases contents with
      | item separator member rest =>
          obtain ⟨t, read, closed⟩ := ih rest
          obtain ⟨w, blanks, turn⟩ := members_read_member separator member accepted _
          refine ⟨t, ?_, closed⟩
          rw [turn, (h accepted).complete blanks value rest.ends]
          exact read

/-- **The members of an object** are recognised by what the visitor makes of them. -/
theorem members_recognises {start : σ} {s : List Char} {r : List Char} {out : σ} :
    (∃ t, members visit true start s = .ok (out, t) ∧ Bracket.curly.finish t = .ok r) ↔
      ∃ ms, Contents .curly IsMember true s ms r ∧ Visits visit L start ms out := by
  constructor
  · rintro ⟨t, read, closed⟩
    exact contents_of_members h read closed
  · rintro ⟨ms, contents, visits⟩
    exact members_of_contents h contents visits

end Members

end Lexicon.Json
