import Lexicon.Proofs.Json.Containers
import Lexicon.Proofs.Json.Fields
import Lexicon.Proofs.Vocabulary.Names
import Lexicon.Token

/-!
# The format of tokens

A token is read from exactly two forms (`decode_eq_ok_iff_format`): an array of its category and its
lexeme, and an object with a member for each.  An object may have other members, with any values at
any depth, which are passed over; it may not have either of the two twice.

The object form is read into a draft, so most of the work is to say what a list of members makes of
a draft (`visits_iff`).  Both fields are gathered at once, but neither is affected by members with
the other's key, and each follows the same rule, `Json.Gathers`.
-/

namespace Lexicon

open Taxonomy Json

variable {κ : Type} [Taxonomy κ]

/-- **A piece of JSON text denotes a category**: a literal of its name, or an object with its name
as the key of its one member, whose value is `null`. -/
def Denotes (v : List Char) (c : κ) : Prop :=
  IsLiteral v (name c) ∨ IsObject v [(name c, "null".toList)]

namespace Token

/-- A category is read from what denotes it. -/
theorem recognises_categoryReader : Recognises (categoryReader κ) Denotes :=
  recognises_choice_of_names lookup_named_eq_some_iff

/-! ## The array form -/

/-- The elements of an array that make a token: what denotes its category, and its lexeme. -/
def ElementsMake (elements : List (List Char)) (t : Token κ) : Prop :=
  ∃ x y, elements = [x, y] ∧ Denotes x t.category ∧ IsLiteral y t.lexeme

theorem ofArray_read_eq_ok_iff {s r : List Char} {t : Token κ} :
    ofArray.read s = .ok (t, r) ↔
      ∃ u, field recordName 2 0 (categoryReader κ) s = .ok (t.category, u) ∧
        field recordName 2 1 Json.string u = .ok (t.lexeme, r) := by
  rw [ofArray]
  dsimp only
  constructor
  · intro h
    split at h
    · cases h
    · next first =>
      split at h
      · cases h
      · next second =>
        cases h
        exact ⟨_, first, second⟩
  · rintro ⟨u, first, second⟩
    simp only [first, second]

theorem recognises_ofArray :
    (ofArray : Content (Token κ)).Recognises .square Eq ElementsMake := by
  intro s t r
  rw [enclosed_eq_ok_iff]
  constructor
  · rintro ⟨u, read, closed⟩
    obtain ⟨u', first, second⟩ := ofArray_read_eq_ok_iff.1 read
    -- Each field took its separator; the blanks after the second stand before the bracket.
    obtain ⟨l, x, separator, category, rfl⟩ := element_of_field recognises_categoryReader first
    obtain ⟨l', y, separator', lexeme, rfl⟩ := element_of_field recognises_string second
    obtain ⟨w, blanks, rfl⟩ := finish_eq_ok_iff.1 closed
    refine ⟨[x, y], ?_, x, y, rfl, category, lexeme⟩
    exact .item separator rfl (.item separator' rfl (.close blanks))
  · rintro ⟨elements, contents, x, y, rfl, category, lexeme⟩
    cases contents with
    | item separator same rest =>
        subst same
        cases rest with
        | @item _ _ y _ _ _ _ separator' same rest' =>
            subst same
            cases rest' with
            | @close _ w _ blanks =>
                have close : Contents .square Eq false (w ++ ']' :: r) [] r :=
                  .close (b := .square) blanks
                have ends := (Contents.item separator' (Eq.refl y) close).ends
                have first := field_append recognises_categoryReader recordName 2 0 separator
                  category ends
                have second := field_append recognises_string recordName 2 1 separator' lexeme
                  close.ends
                exact ⟨_, ofArray_read_eq_ok_iff.2 ⟨_, first, second⟩,
                  finish_eq_ok_iff.2 ⟨w, blanks, rfl⟩⟩

/-! ## The object form -/

/-- The members of an object that make a token: exactly one for its category, exactly one for its
lexeme, and others with any values. -/
structure MembersMake (members : List (String × List Char)) (t : Token κ) : Prop where
  category : ∃ v, membersAt categoryKey members = [(categoryKey, v)] ∧ Denotes v t.category
  lexeme : ∃ v, membersAt lexemeKey members = [(lexemeKey, v)] ∧ IsLiteral v t.lexeme
  others : ∀ m ∈ members, m.1 ≠ categoryKey → m.1 ≠ lexemeKey → IsValue m.2

theorem categoryKey_ne_lexemeKey : categoryKey ≠ lexemeKey := by decide

/-- What a draft makes of the value of a member. -/
def Draft.Takes (draft : Draft κ) (key : String) : Json.Language (Draft κ) := fun v next =>
  if key = categoryKey then ∃ c, Denotes v c ∧ Draft.mk (some c) draft.lexeme = next
  else if key = lexemeKey then ∃ s, IsLiteral v s ∧ Draft.mk draft.category (some s) = next
  else IsValue v ∧ draft = next

/-- The reader of a member that is not refused reads what the draft takes. -/
theorem Draft.recognises_visit {draft : Draft κ} {key : String} {reader : Reader (Draft κ)}
    (h : Draft.visit draft key = .ok reader) : Recognises reader (draft.Takes key) := by
  unfold Draft.visit at h
  unfold Draft.Takes
  split at h
  · next isCategory =>
    split at h
    · cases h
    · cases h
      simp only [if_pos isCategory]
      exact recognises_categoryReader.map _
  · next notCategory =>
    split at h
    · next isLexeme =>
      split at h
      · cases h
      · cases h
        simp only [if_neg notCategory, if_pos isLexeme]
        exact recognises_string.map _
    · next notLexeme =>
      cases h
      simp only [if_neg notCategory, if_neg notLexeme]
      simpa using recognises_skipped.map fun _ => draft

/-- A member is accepted and taken if each field gets from it what it may get. -/
theorem Draft.takes_iff {draft next : Draft κ} {key : String} {v : List Char} :
    ((∃ reader, Draft.visit draft key = .ok reader) ∧ draft.Takes key v next) ↔
      Adds categoryKey Denotes key v draft.category next.category ∧
        Adds lexemeKey IsLiteral key v draft.lexeme next.lexeme ∧
        (key ≠ categoryKey → key ≠ lexemeKey → IsValue v) := by
  obtain ⟨category, lexeme⟩ := draft
  obtain ⟨category', lexeme'⟩ := next
  -- A member is of the one field, of the other, or of neither.
  by_cases isCategory : key = categoryKey
  · subst isCategory
    simp only [adds_self, adds_of_ne categoryKey_ne_lexemeKey]
    cases category with
    | some c => simp [Draft.visit]
    | none =>
        simp only [Draft.visit, Draft.Takes, if_true, Draft.mk.injEq]
        constructor
        · rintro ⟨-, c, denotes, rfl, rfl⟩
          exact ⟨⟨trivial, c, denotes, rfl⟩, rfl, fun h => absurd rfl h⟩
        · rintro ⟨⟨-, c, denotes, rfl⟩, rfl, -⟩
          exact ⟨⟨_, rfl⟩, c, denotes, rfl, rfl⟩
  by_cases isLexeme : key = lexemeKey
  · subst isLexeme
    simp only [adds_self, adds_of_ne isCategory]
    cases lexeme with
    | some s => simp [Draft.visit, isCategory]
    | none =>
        simp only [Draft.visit, Draft.Takes, if_neg isCategory, if_true, Draft.mk.injEq]
        constructor
        · rintro ⟨-, s, literal, rfl, rfl⟩
          exact ⟨rfl, ⟨trivial, s, literal, rfl⟩, fun _ h => absurd rfl h⟩
        · rintro ⟨rfl, ⟨-, s, literal, rfl⟩, -⟩
          exact ⟨⟨_, rfl⟩, s, literal, rfl, rfl⟩
  · simp only [adds_of_ne isCategory, adds_of_ne isLexeme, Draft.visit, Draft.Takes,
      if_neg isCategory, if_neg isLexeme, Draft.mk.injEq]
    constructor
    · rintro ⟨-, value, rfl, rfl⟩
      exact ⟨rfl, rfl, fun _ _ => value⟩
    · rintro ⟨rfl, rfl, value⟩
      exact ⟨⟨_, rfl⟩, value isCategory isLexeme, rfl, rfl⟩

/-- The gathering of both fields, and the form of the other members. -/
structure Draft.Gathered (draft : Draft κ) (members : List (String × List Char)) (out : Draft κ) :
    Prop where
  category : Gathers categoryKey Denotes draft.category members out.category
  lexeme : Gathers lexemeKey IsLiteral draft.lexeme members out.lexeme
  others : ∀ m ∈ members, m.1 ≠ categoryKey → m.1 ≠ lexemeKey → IsValue m.2

/-- **What members make of a draft**, each field for itself. -/
theorem Draft.visits_iff {draft out : Draft κ} {members : List (String × List Char)} :
    Visits Draft.visit Draft.Takes draft members out ↔ draft.Gathered members out := by
  induction members generalizing draft with
  | nil =>
      obtain ⟨c, s⟩ := draft
      obtain ⟨c', s'⟩ := out
      rw [visits_nil_iff]
      constructor
      · intro same
        cases same
        exact ⟨gathers_nil.2 rfl, gathers_nil.2 rfl, List.forall_mem_nil _⟩
      · rintro ⟨category, lexeme, -⟩
        exact congr (congrArg Draft.mk (gathers_nil.1 category)) (gathers_nil.1 lexeme)
  | cons member members ih =>
      obtain ⟨key, v⟩ := member
      simp only [visits_cons_iff, Draft.takes_iff, ih]
      constructor
      · rintro ⟨next, ⟨category, lexeme, other⟩, rest⟩
        exact ⟨gathers_cons_iff.2 ⟨_, category, rest.category⟩,
          gathers_cons_iff.2 ⟨_, lexeme, rest.lexeme⟩, List.forall_mem_cons.2 ⟨other, rest.others⟩⟩
      · intro gathered
        obtain ⟨c, category, categories⟩ := gathers_cons_iff.1 gathered.category
        obtain ⟨s, lexeme, lexemes⟩ := gathers_cons_iff.1 gathered.lexeme
        obtain ⟨other, others⟩ := List.forall_mem_cons.1 gathered.others
        exact ⟨⟨c, s⟩, ⟨category, lexeme, other⟩, categories, lexemes, others⟩

omit [Taxonomy κ] in
theorem Draft.finish_eq_ok_iff {draft : Draft κ} {t : Token κ} :
    draft.finish = .ok t ↔ draft = ⟨some t.category, some t.lexeme⟩ := by
  obtain ⟨category, lexeme⟩ := draft
  obtain ⟨c, s⟩ := t
  cases category with
  | none => simp [Draft.finish]
  | some category =>
      cases lexeme with
      | none => simp [Draft.finish]
      | some lexeme => simp [Draft.finish]

/-- From nothing gathered to both fields: what a token is made of. -/
theorem Draft.gathered_iff_membersMake {members : List (String × List Char)} {t : Token κ} :
    (Draft.mk none none).Gathered members ⟨some t.category, some t.lexeme⟩ ↔
      MembersMake members t := by
  constructor
  · rintro ⟨category, lexeme, others⟩
    exact ⟨gathers_none_some.1 category, gathers_none_some.1 lexeme, others⟩
  · rintro ⟨category, lexeme, others⟩
    exact ⟨gathers_none_some.2 category, gathers_none_some.2 lexeme, others⟩

theorem ofObject_read_eq_ok_iff {s r : List Char} {t : Token κ} :
    ofObject.read s = .ok (t, r) ↔
      members Draft.visit true ⟨none, none⟩ s = .ok (⟨some t.category, some t.lexeme⟩, r) := by
  rw [ofObject]
  dsimp only
  constructor
  · intro h
    split at h
    · cases h
    · next read =>
      split at h
      · next finished =>
        cases h
        rw [read, Draft.finish_eq_ok_iff.1 finished]
      · cases h
  · intro read
    simp only [read, Draft.finish_eq_ok_iff.2 rfl]

theorem recognises_ofObject :
    (ofObject : Content (Token κ)).Recognises .curly IsMember MembersMake := by
  intro s t r
  have visit {draft : Draft κ} {key reader} (h : Draft.visit draft key = .ok reader) :
      Recognises reader (Draft.Takes draft key) := Draft.recognises_visit h
  simp only [enclosed_eq_ok_iff, ofObject_read_eq_ok_iff,
    members_recognises (L := Draft.Takes) visit, Draft.visits_iff,
    Draft.gathered_iff_membersMake]

/-! ## Both forms -/

theorem recognises_reader :
    Recognises (reader : Reader (Token κ)) (IsRecord ElementsMake MembersMake) :=
  recognises_record recordName recognises_ofArray recognises_ofObject

/-- **The format of a token.**  A text is read as a token if and only if, blanks around it aside, it
is an array of what denotes the category and a literal of the lexeme, or an object whose members
make the token. -/
theorem decode_eq_ok_iff_format (text : String) (c : κ) (lexeme : String) :
    decode reader text = .ok ⟨c, lexeme⟩ ↔
      ∃ w v w', Blanks w ∧ Blanks w' ∧ text.toList = w ++ (v ++ w') ∧
        ((∃ x y, IsArray v [x, y] ∧ Denotes x c ∧ IsLiteral y lexeme) ∨
          ∃ members, IsObject v members ∧ MembersMake members ⟨c, lexeme⟩) := by
  rw [recognises_reader.decode_eq_ok_iff]
  constructor
  · rintro ⟨w, v, w', blanks, ⟨_, array, x, y, rfl, denotes, literal⟩ | object, blanks', split⟩
    · exact ⟨w, v, w', blanks, blanks', split, .inl ⟨x, y, array, denotes, literal⟩⟩
    · exact ⟨w, v, w', blanks, blanks', split, .inr object⟩
  · rintro ⟨w, v, w', blanks, blanks', split, ⟨x, y, array, denotes, literal⟩ | object⟩
    · exact ⟨w, v, w', blanks, .inl ⟨_, array, x, y, rfl, denotes, literal⟩, blanks', split⟩
    · exact ⟨w, v, w', blanks, .inr object, blanks', split⟩

end Token

end Lexicon
