import Lexicon.Proofs.Json.Writing
import Lexicon.Proofs.Token.Format

/-!
# Writing and reading back

The text of a token is one of those that its format gives to it, with the two members in their order
and no blanks.  As the reader accepts the whole format, it reads back the token, and likewise a list
of tokens from the array of their texts.
-/

namespace Lexicon

open Taxonomy Json

variable {κ : Type} [Taxonomy κ]

namespace Json

/-- A value of a recognised language that is the whole text is read. -/
theorem Recognises.decode_ofList {α : Type} {reader : Reader α} {L : Language α}
    (h : Recognises reader L) {v : List Char} {a : α} (value : L v a) :
    decode reader (String.ofList v) = .ok a :=
  h.decode_eq_ok_iff.2 ⟨[], v, [], blanks_nil, value, blanks_nil, by simp⟩

end Json

namespace Token

/-- The two members of a written token. -/
theorem isObject_encode (t : Token κ) :
    IsObject t.encode
      [(categoryKey, literal (name t.category)), (lexemeKey, literal t.lexeme)] :=
  isObject_object (.cons (isMember_member _ _) (.cons (isMember_member _ _) .nil))

/-- They make the token. -/
theorem membersMake_encode (t : Token κ) :
    MembersMake [(categoryKey, literal (name t.category)), (lexemeKey, literal t.lexeme)] t where
  category := by
    refine ⟨literal (name t.category), ?_, .inl (isLiteral_literal _)⟩
    rw [membersAt, List.filter_cons_of_pos (by simp), List.filter_cons_of_neg, List.filter_nil]
    simpa using categoryKey_ne_lexemeKey.symm
  lexeme := by
    refine ⟨literal t.lexeme, ?_, isLiteral_literal _⟩
    rw [membersAt, List.filter_cons_of_neg, List.filter_cons_of_pos (by simp), List.filter_nil]
    simpa using categoryKey_ne_lexemeKey
  others := by
    intro m listed notCategory notLexeme
    simp only [List.mem_cons, List.not_mem_nil, or_false] at listed
    obtain rfl | rfl := listed
    · exact absurd rfl notCategory
    · exact absurd rfl notLexeme

/-- A written token is in the language of its reader. -/
theorem isRecord_encode (t : Token κ) : IsRecord ElementsMake MembersMake t.encode t :=
  .inr ⟨_, isObject_encode t, membersMake_encode t⟩

/-- So a token is read back from its text. -/
theorem decode_json (t : Token κ) : decode reader t.json = .ok t :=
  recognises_reader.decode_ofList (isRecord_encode t)

/-- A written list of tokens is in the language of lists. -/
theorem isList_encode (ts : List (Token κ)) :
    IsList (IsRecord ElementsMake MembersMake) (array (ts.map encode)) ts := by
  refine ⟨ts.map encode, isArray_array _, ?_⟩
  rw [List.forall₂_map_left_iff]
  exact List.forall₂_same.2 fun t _ => isRecord_encode t

/-- The texts of the tokens with commas between them, in square brackets. -/
theorem ofList_array_encode (ts : List (Token κ)) :
    String.ofList (array (ts.map encode)) = "[" ++ ",".intercalate (ts.map json) ++ "]" := by
  have texts : (ts.map json).map String.toList = ts.map encode := by
    rw [List.map_map]
    exact List.map_congr_left fun _ _ => String.toList_ofList
  apply String.toList_inj.1
  simp only [String.toList_ofList, String.toList_append, String.toList_intercalate, texts]
  rfl

/-- **Reading undoes writing**, for every token and for every list of tokens. -/
theorem decode_written :
    (∀ t : Token κ, decode reader t.json = .ok t) ∧
      ∀ ts : List (Token κ),
        decode (Json.list reader) ("[" ++ ",".intercalate (ts.map json) ++ "]") = .ok ts := by
  constructor
  · exact decode_json
  · intro ts
    rw [← ofList_array_encode]
    exact recognises_reader.list.decode_ofList (isList_encode ts)

end Token

end Lexicon
