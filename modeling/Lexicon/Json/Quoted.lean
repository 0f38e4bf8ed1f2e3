import Lexicon.Json.Literal
import Lexicon.Json.Reader

/-!
# Reading string literals

The characters of a string literal after its opening quote, either read or skipped. A skipped
literal is held to the same form, but nobody asks whether its surrogates are paired.

## Main definitions

* `readString`, `readEscape` — the text of a literal.
* `skipString`, `skipEscape` — a literal passed over.
-/

namespace Lexicon.Json

/-- The value of a hexadecimal digit, in either case. -/
def hexDigit? (c : Char) : Option Nat :=
  if '0' ≤ c ∧ c ≤ '9' then some (c.toNat - '0'.toNat)
  else if 'a' ≤ c ∧ c ≤ 'f' then some (c.toNat - 'a'.toNat + 10)
  else if 'A' ≤ c ∧ c ≤ 'F' then some (c.toNat - 'A'.toNat + 10)
  else none

/-- The value of four hexadecimal digits. -/
def hexDigits? (a b c d : Char) : Option Nat := do
  let a ← hexDigit? a
  let b ← hexDigit? b
  let c ← hexDigit? c
  let d ← hexDigit? d
  return ((a * 16 + b) * 16 + c) * 16 + d

/-- Refuses the next four bytes, if there are so many. -/
def badHex {α : Type} (s : List Char) : Except Failure α :=
  if bytes s < 4 then atEnd .cutString else .error ⟨.badEscape, bytes s - 4⟩

/-- Takes four hexadecimal digits off the front. -/
def hexFour (s : List Char) : Except Failure (Nat × List Char) :=
  match s with
  | a :: b :: c :: d :: r =>
    match hexDigits? a b c d with
    | some n => .ok (n, r)
    | none => badHex s
  | _ => badHex s

/-- The first halves of surrogate pairs. -/
def isHighSurrogate (n : Nat) : Bool := 0xD800 ≤ n && n ≤ 0xDBFF

/-- The second halves of surrogate pairs. -/
def isLowSurrogate (n : Nat) : Bool := 0xDC00 ≤ n && n ≤ 0xDFFF

/-- The character of a surrogate pair. -/
def pairedSurrogates (high low : Nat) : Char :=
  Char.ofNat (0x10000 + ((high - 0xD800) * 0x400 + (low - 0xDC00)))

/-- The second half of the pair that `high` starts. -/
def lowSurrogate (high : Nat) (s : List Char) : Except Failure (Char × List Char) :=
  match letters .cutString .brokenPair ['\\', 'u'] s with
  | .error e => .error e
  | .ok s =>
    match hexFour s with
    | .error e => .error e
    | .ok (low, r) =>
      if isLowSurrogate low then .ok (pairedSurrogates high low, r) else before r .loneSurrogate

/-- The character of an escape by its code, after the `u`. -/
def codeEscape (s : List Char) : Except Failure (Char × List Char) :=
  match hexFour s with
  | .error e => .error e
  | .ok (n, r) =>
    if isLowSurrogate n then before r .loneSurrogate
    else if isHighSurrogate n then lowSurrogate n r
    else .ok (Char.ofNat n, r)

/-- The character that a letter after a backslash stands for. A slash may be escaped too. -/
def escaped? (letter : Char) : Option Char :=
  if letter = '/' then some '/'
  else (letterEscapes.find? fun pair => pair.2 = letter).map Prod.fst

/-- The character of an escape, after the backslash. -/
def readEscape : List Char → Except Failure (Char × List Char)
  | [] => atEnd .cutString
  | c :: s =>
    if c = 'u' then codeEscape s
    else
      match escaped? c with
      | some d => .ok (d, s)
      | none => into (c :: s) .badEscape

/-- Passes over an escape, after the backslash. -/
def skipEscape : List Char → Except Failure (List Char)
  | [] => atEnd .cutString
  | c :: s =>
    if c = 'u' then
      match hexFour s with
      | .ok (_, r) => .ok r
      | .error e => .error e
    else
      match escaped? c with
      | some _ => .ok s
      | none => into (c :: s) .badEscape

/-! ## Something is taken -/

theorem length_lt_of_hexFour {s r : List Char} {n : Nat} (h : hexFour s = .ok (n, r)) :
    r.length < s.length := by
  unfold hexFour at h
  split at h
  · split at h
    · cases h
      simp only [List.length_cons]
      omega
    · unfold badHex at h
      split at h <;> cases h
  · unfold badHex at h
    split at h <;> cases h

theorem length_lt_of_codeEscape {s r : List Char} {c : Char} (h : codeEscape s = .ok (c, r)) :
    r.length < s.length := by
  unfold codeEscape at h
  split at h
  · cases h
  · next n t four =>
    have := length_lt_of_hexFour four
    split at h
    · cases h
    · split at h
      · unfold lowSurrogate at h
        split at h
        · cases h
        · next marked mark =>
          have := length_le_of_letters mark
          split at h
          · cases h
          · next low rest last =>
            have := length_lt_of_hexFour last
            split at h
            · rw [Except.ok.injEq, Prod.mk.injEq] at h
              have := congrArg List.length h.2
              omega
            · cases h
      · rw [Except.ok.injEq, Prod.mk.injEq] at h
        exact h.2 ▸ this

theorem length_lt_of_readEscape {s r : List Char} {c : Char} (h : readEscape s = .ok (c, r)) :
    r.length < s.length := by
  cases s with
  | nil => cases h
  | cons d s =>
    rw [readEscape] at h
    split at h
    · exact Nat.lt_succ_of_lt (length_lt_of_codeEscape h)
    · split at h
      · cases h
        exact Nat.lt_succ_self _
      · cases h

theorem length_lt_of_skipEscape {s r : List Char} (h : skipEscape s = .ok r) :
    r.length < s.length := by
  cases s with
  | nil => cases h
  | cons d s =>
    rw [skipEscape] at h
    split at h
    · split at h
      · next four =>
        cases h
        exact Nat.lt_succ_of_lt (length_lt_of_hexFour four)
      · cases h
    · split at h
      · cases h
        exact Nat.lt_succ_self _
      · cases h

/-! ## Whole literals -/

/-- Reads the characters up to the closing quote; `done` holds those read before, the last one
first. -/
def readString (done : List Char) : List Char → Except Failure (String × List Char)
  | [] => atEnd .cutString
  | c :: s =>
    if c = '"' then .ok (String.ofList done.reverse, s)
    else if c = '\\' then
      match taken : readEscape s with
      | .ok (d, r) =>
        have := length_lt_of_readEscape taken
        readString (d :: done) r
      | .error e => .error e
    else if c.toNat < controlEnd then into (c :: s) .controlCharacter
    else readString (c :: done) s
termination_by s => s.length

/-- Passes over the characters up to the closing quote. -/
def skipString : List Char → Except Failure (List Char)
  | [] => atEnd .cutString
  | c :: s =>
    if c = '"' then .ok s
    else if c = '\\' then
      match taken : skipEscape s with
      | .ok r =>
        have := length_lt_of_skipEscape taken
        skipString r
      | .error e => .error e
    else if c.toNat < controlEnd then before (c :: s) .controlCharacter
    else skipString s
termination_by s => s.length

theorem length_lt_of_readString {done s r : List Char} {text : String}
    (h : readString done s = .ok (text, r)) : r.length < s.length := by
  fun_induction readString done s with
  | case1 => cases h
  | case2 done s => cases h; exact Nat.lt_succ_self _
  | case3 done s _ d t taken _ ih =>
    have := ih h
    simp only [List.length_cons]
    omega
  | case4 => cases h
  | case5 => cases h
  | case6 done c s _ _ _ ih =>
    have := ih h
    simp only [List.length_cons]
    omega

theorem length_lt_of_skipString {s r : List Char} (h : skipString s = .ok r) :
    r.length < s.length := by
  fun_induction skipString s with
  | case1 => cases h
  | case2 s => cases h; exact Nat.lt_succ_self _
  | case3 s _ t taken _ ih =>
    have := ih h
    simp only [List.length_cons]
    omega
  | case4 => cases h
  | case5 => cases h
  | case6 c s _ _ _ ih =>
    have := ih h
    simp only [List.length_cons]
    omega

end Lexicon.Json
