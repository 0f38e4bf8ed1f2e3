import Mathlib.Data.List.Lex
import Mathlib.Data.List.Sort
import Mathlib.Data.String.Basic

/-!
# The order of texts by their bytes

Texts are sorted by the bytes of their UTF-8 form, and compared character by character.  The two
orders are one (`precedes_iff_lt`): of two characters, the smaller one has the form whose first
differing byte is smaller, and no form continues another.

The forms are numbers written in base 64, with a mark in the first byte that grows with the number of
bytes.  So forms of different lengths already differ in the first byte, and forms of equal length
compare like the numbers (`lex_characterBytes`).

Different texts have one sorted order, which does not depend on how they are sorted
(`eq_mergeSort_of_perm`).

## Main definitions

* `byteValues` — the bytes of a text, as numbers.
* `Precedes` — the order by bytes.
-/

namespace Lexicon.Text

/-- The bytes of a text in UTF-8, as numbers. -/
def byteValues (s : String) : List Nat :=
  s.toUTF8.data.toList.map UInt8.toNat

/-- **The order by bytes**: at the first difference the smaller byte decides, and a text comes before
its continuations. -/
def Precedes (s t : String) : Prop :=
  List.Lex (· < ·) (byteValues s) (byteValues t)

/-- The bytes of one character, as numbers. -/
def characterBytes (c : Char) : List Nat :=
  (String.utf8EncodeChar c).map UInt8.toNat

variable {c d : Char} {s t : List Char}

theorem byteValues_eq (s : String) : byteValues s = s.toList.flatMap characterBytes := by
  have encoded : s.toUTF8.data.toList = s.toList.flatMap String.utf8EncodeChar := by
    rw [String.toUTF8_eq_toByteArray, ← String.utf8Encode_toList, List.utf8Encode,
      List.data_toByteArray]
  rw [byteValues, encoded, List.map_flatMap]
  rfl

theorem toNat_lt_of_char (c : Char) : c.toNat < 0x110000 := by
  have valid : c.toNat.isValidChar := c.valid
  rcases valid with below | between
  · omega
  · exact between.2

/-- A character is written in one to four bytes, according to its size. -/
theorem characterBytes_eq (c : Char) :
    characterBytes c =
      if c.toNat < 0x80 then [c.toNat]
      else if c.toNat < 0x800 then [c.toNat / 0x40 + 0xc0, c.toNat % 0x40 + 0x80]
      else if c.toNat < 0x10000 then
        [c.toNat / 0x1000 + 0xe0, c.toNat / 0x40 % 0x40 + 0x80, c.toNat % 0x40 + 0x80]
      else
        [c.toNat / 0x40000 + 0xf0, c.toNat / 0x1000 % 0x40 + 0x80, c.toNat / 0x40 % 0x40 + 0x80,
          c.toNat % 0x40 + 0x80] := by
  have bound : c.val.toNat < 0x110000 := toNat_lt_of_char c
  simp only [characterBytes, String.utf8EncodeChar, Char.toNat, apply_ite (List.map UInt8.toNat),
    List.map_cons, List.map_nil, UInt8.toNat_ofNat']
  split_ifs
  all_goals try omega
  all_goals simp only [List.cons.injEq, and_true]; omega

theorem characterBytes_ne_nil (c : Char) : characterBytes c ≠ [] := by
  rw [characterBytes, Ne, List.map_eq_nil_iff]
  exact String.utf8EncodeChar_ne_nil

/-- **Smaller characters have smaller forms**, whatever follows them. -/
theorem lex_characterBytes (h : c < d) (x y : List Nat) :
    List.Lex (· < ·) (characterBytes c ++ x) (characterBytes d ++ y) := by
  have smaller : c.toNat < d.toNat := h
  have := toNat_lt_of_char d
  rw [characterBytes_eq, characterBytes_eq]
  -- By the lengths of the two forms.  A longer one has the larger first byte.  In forms of equal
  -- length the digits in base 64 decide, as they do between the numbers.
  split_ifs
  all_goals simp only [List.cons_append, List.nil_append, List.cons_lex_cons_iff]; omega

/-- The first differing characters decide, and their forms do. -/
theorem lex_flatMap_of_lex (h : List.Lex (· < ·) s t) :
    List.Lex (· < ·) (s.flatMap characterBytes) (t.flatMap characterBytes) := by
  induction h with
  | nil =>
      obtain ⟨b, bytes, form⟩ := List.exists_cons_of_ne_nil (characterBytes_ne_nil _)
      rw [List.flatMap_cons, form]
      exact .nil
  | rel smaller => exact lex_characterBytes smaller _ _
  | cons tail ih => exact List.Lex.append_left _ ih _

/-- **The order by bytes is the order by characters.** -/
theorem precedes_iff_lt {s t : String} : Precedes s t ↔ s < t := by
  have forward {s t : String} (h : s < t) : Precedes s t := by
    rw [Precedes, byteValues_eq, byteValues_eq]
    exact lex_flatMap_of_lex h
  refine ⟨fun h => ?_, forward⟩
  -- The order by characters is total, so its other two cases are to be excluded.
  rcases lt_trichotomy s t with less | rfl | greater
  · exact less
  · exact absurd h (List.lt_irrefl (byteValues s))
  · exact absurd h (List.lt_asymm (forward greater))

theorem not_precedes_iff_le {s t : String} : ¬ Precedes s t ↔ t ≤ s := by
  rw [precedes_iff_lt, not_lt]

theorem Precedes.asymm {s t : String} (h : Precedes s t) : ¬ Precedes t s :=
  not_precedes_iff_le.2 (precedes_iff_lt.1 h).le

/-! ## Sorting -/

/-- Sorting puts different texts into strict order. -/
theorem ascending_mergeSort {texts : List String} (nodup : texts.Nodup) :
    texts.mergeSort.Pairwise Precedes := by
  have differ : texts.mergeSort.Nodup := (List.mergeSort_perm _ _).nodup_iff.2 nodup
  have strict : texts.mergeSort.SortedLT := List.sortedLE_mergeSort.sortedLT_of_nodup differ
  exact strict.pairwise.imp precedes_iff_lt.2

/-- However texts are sorted, they come in one order. -/
theorem eq_mergeSort_of_perm {texts sorted : List String} (perm : sorted.Perm texts)
    (ordered : sorted.Pairwise fun s t => ¬ Precedes t s) : sorted = texts.mergeSort := by
  have ascending : sorted.SortedLE := (ordered.imp not_precedes_iff_le.1).sortedLE
  have same : sorted.Perm texts.mergeSort := perm.trans (List.mergeSort_perm _ _).symm
  exact same.eq_of_sortedLE ascending List.sortedLE_mergeSort

end Lexicon.Text
