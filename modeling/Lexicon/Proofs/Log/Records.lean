import Lexicon.Log
import Lexicon.Proofs.Text.Wording
import Mathlib.Logic.Function.Basic

/-!
# A record can be read from its text

The three kinds of records open with different words, the two versions have names of which neither
begins the other, and what was classified is quoted.  So each part of a text can be told before the
next one is looked at, and no two records have the same text (`Record.text_inj`).  In particular the
text of a classification determines the word and the label, whatever they are.

## Main definitions

* `Record.opening`, `Record.remainder` — the two parts of a text.
* `Record.answer?` — the word and the label of a classification.
-/

namespace Lexicon

/-- Where the name of a version ends can be told from what is written. -/
theorem Version.append_inj_of_name {v w : Version} {x y : String}
    (h : v.name ++ x = w.name ++ y) : v = w ∧ x = y := by
  have free : Text.PrefixFree ["baseline", "extended"] := by decide +kernel
  have listed (v : Version) : v.name ∈ ["baseline", "extended"] := by
    cases v <;> simp [name]
  obtain ⟨names, rest⟩ := free.append_inj (listed v) (listed w) h
  exact ⟨name_injective names, rest⟩

namespace Log.Record

open Text

variable {r s : Record}

/-- The words that open the text of a record. -/
def opening : Record → String
  | .built _ _ => "built "
  | .classified _ _ => "classified "
  | .selected _ _ => "front end targets the "

/-- What the text says after them. -/
def remainder : Record → String
  | .built version size =>
    version.name ++ (" keyword table with " ++ (toString size ++ " entries"))
  | .classified spelling label => quote spelling ++ (" as " ++ label)
  | .selected version .json => version.name ++ " taxonomy"
  | .selected version .environment =>
    version.name ++ (" taxonomy (" ++ (Version.environmentName ++ ")"))

/-- The words that open the texts of records. -/
def openings : List String :=
  ["built ", "classified ", "front end targets the "]

theorem prefixFree_openings : PrefixFree openings := by decide +kernel

theorem opening_mem_openings (r : Record) : r.opening ∈ openings := by
  cases r <;> simp [opening, openings]

/-- Where a version was chosen can be told from the end of the text. -/
theorem origin_inj {o p : Origin} {v w : Version}
    (h : (selected v o).remainder = (selected w p).remainder) : v = w ∧ o = p := by
  have differs : " taxonomy" ≠ " taxonomy (" ++ (Version.environmentName ++ ")") := by decide
  cases o with
  | json =>
      cases p with
      | json => exact ⟨(Version.append_inj_of_name h).1, rfl⟩
      | environment => exact absurd (Version.append_inj_of_name h).2 differs
  | environment =>
      cases p with
      | json => exact absurd (Version.append_inj_of_name h).2.symm differs
      | environment => exact ⟨(Version.append_inj_of_name h).1, rfl⟩

/-- A number can be read from its decimal digits. -/
theorem decimal_inj {m n : Nat} (h : toString m = toString n) : m = n := by
  have digits : Nat.toDigits 10 m = Nat.toDigits 10 n := by
    rw [← Nat.toList_repr, ← Nat.toList_repr]
    exact congrArg String.toList h
  calc
    m = Nat.ofDigitChars 10 (Nat.toDigits 10 m) 0 := Nat.ofDigitChars_ten_toDigits.symm
    _ = Nat.ofDigitChars 10 (Nat.toDigits 10 n) 0 := by rw [digits]
    _ = n := Nat.ofDigitChars_ten_toDigits

/-- Records whose texts have both parts in common are the same. -/
theorem eq_of_opening_of_remainder (opened : r.opening = s.opening)
    (continued : r.remainder = s.remainder) : r = s := by
  cases r with
  | built v size =>
      cases s with
      | built w size' =>
          obtain ⟨versions, rest⟩ := Version.append_inj_of_name continued
          rw [String.append_right_inj, String.append_left_inj] at rest
          rw [versions, decimal_inj rest]
      | _ => simp [opening] at opened
  | classified spelling label =>
      cases s with
      | classified spelling' label' =>
          obtain ⟨spellings, rest⟩ := append_inj_of_quote continued
          rw [spellings, (String.append_right_inj _).1 rest]
      | _ => simp [opening] at opened
  | selected v o =>
      cases s with
      | selected w p =>
          obtain ⟨versions, origins⟩ := origin_inj continued
          rw [versions, origins]
      | _ => simp [opening] at opened

/-- The word and the label that a record of classification is about. -/
def answer? : Record → Option (String × String)
  | .classified spelling label => some (spelling, label)
  | .built _ _ | .selected _ _ => none

end Log.Record

end Lexicon
