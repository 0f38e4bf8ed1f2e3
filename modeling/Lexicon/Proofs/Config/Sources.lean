import Lexicon.Proofs.Config.Format
import Lexicon.Proofs.Json.Writing
import Lexicon.Proofs.Text.Trimming
import Mathlib.Tactic.TFAE

/-!
# The sources of a configuration

A version is chosen by its name, and the name is looked for in three places: in a list of versions,
among the names that JSON text is read by, and in an environment variable.  `SourcesAgree` says that
all three know the same names.  They differ in what may stand around one.  JSON text takes a string
as it is; the variable may have white space on both sides, and no more than that, whatever it looks
like.

Two of the questions are about one written text, where reading has to be followed step by step to
see that a name that is not known is refused.  Each such step is an equation of the readers
(`Version.reader_read_literal`, `members_read_member`).

## Main definitions

* `Config.document` — the JSON text that chooses a version by a string.
* `Config.Names` — a value of the variable that chooses a version.
-/

namespace Lexicon

open Json Text

namespace Version

variable {name : String} {v : Version} {w k : List Char}

/-- A version is found by its name, as it stands. -/
theorem ofName_eq_ok_iff : ofName name = .ok v ↔ v.name = name := by
  rw [ofName]
  cases search : all.find? fun v => v.name == name with
  | none =>
      have unknown := List.find?_eq_none.1 search v (mem_all v)
      simpa using unknown
  | some u =>
      have named : u.name = name := by simpa using List.find?_some search
      constructor
      · intro same
        cases same
        exact named
      · intro known
        rw [name_injective (known.trans named.symm)]

/-- What no version is called is refused, and quoted. -/
theorem ofName_of_unknown (unknown : ∀ v : Version, v.name ≠ name) :
    ofName name = .error (.unknownVersion name) := by
  have search : (all.find? fun v => v.name == name) = none :=
    List.find?_eq_none.2 fun v _ => by simpa using unknown v
  rw [ofName, search]

/-- A string literal is read by looking it up. -/
theorem reader_read_literal (blanks : Blanks w) (literal : IsLiteral k name) (r : List Char) :
    reader.read (w ++ (k ++ r)) =
      match (all.map fun v => (v.name, v)).lookup name with
      | some v => .ok (v, r)
      | none => before r (.unknownVariant name (all.map Version.name)) := by
  rw [reader, choice_read_literal blanks literal]
  cases (all.map fun v => (v.name, v)).lookup name with
  | none => rfl
  | some v => rfl

/-- A written string is read as the version that it is the name of. -/
theorem decode_literal_iff :
    decode reader (String.ofList (literal name)) = .ok v ↔ v.name = name := by
  have read := reader_read_literal blanks_nil (isLiteral_literal name) []
  rw [List.nil_append, List.append_nil] at read
  rw [← lookup_names_eq_some_iff, decode, String.toList_ofList, read]
  cases (all.map fun v => (v.name, v)).lookup name with
  | none => simp [before, Except.mapError]
  | some u => simp [skipBlank, Except.mapError]

end Version

namespace Config

variable {name : String} {c : Config} {v : Version}

/-! ## A string in JSON text -/

/-- The JSON text that chooses a version by a string. -/
def document (name : String) : String :=
  String.singleton '{' ++ "\"taxonomy\":" ++ String.ofList (literal name) ++ String.singleton '}'

theorem toList_document (name : String) :
    (document name).toList = '{' :: (member versionKey (literal name) ++ ['}']) := by
  have key : "\"taxonomy\":".toList = literal versionKey ++ [':'] := by decide
  rw [document]
  simp only [String.toList_append, String.toList_singleton, String.toList_ofList, key, member,
    List.append_assoc, List.cons_append, List.nil_append]

/-- Its member is read by looking the string up. -/
theorem members_document (name : String) (r : List Char) :
    members visit true none (member versionKey (literal name) ++ '}' :: r) =
      match (Version.all.map fun v => (v.name, v)).lookup name with
      | some v => .ok (some v, '}' :: r)
      | none => before ('}' :: r) (.unknownVariant name (Version.all.map Version.name)) := by
  have accepted : visit none versionKey = .ok (Version.reader.map some) := rfl
  have separator : Separator true [] := blanks_nil
  obtain ⟨w, blanks, turn⟩ := members_read_member separator
    (isMember_member versionKey (literal name)) accepted ('}' :: r)
  rw [List.nil_append] at turn
  rw [turn, Reader.map]
  simp only [Version.reader_read_literal blanks (isLiteral_literal name)]
  cases (Version.all.map fun v => (v.name, v)).lookup name with
  | none => rfl
  | some v =>
      have closed : Bracket.curly.next false ('}' :: r) = .ok none :=
        next_close .curly false blanks_nil r
      show members visit false (some v) ('}' :: r) = .ok (some v, '}' :: r)
      rw [members_eq, closed]

/-- **The document of a string** chooses the version that it is the name of. -/
theorem decode_document_iff : decode reader (document name) = .ok c ↔ c.version.name = name := by
  obtain ⟨version⟩ := c
  have read : reader.read ('{' :: (member versionKey (literal name) ++ ['}'])) =
      Bracket.curly.enclosed ofObject (member versionKey (literal name) ++ ['}']) := rfl
  have closed : Bracket.curly.finish ['}'] = .ok [] := rfl
  rw [← Version.lookup_names_eq_some_iff, decode, toList_document, read, Bracket.enclosed, ofObject]
  simp only [members_document]
  cases (Version.all.map fun v => (v.name, v)).lookup name with
  | none => simp [before, Except.mapError]
  | some v => simp [closed, skipBlank, Except.mapError]

/-! ## The environment variable -/

/-- A value of the variable names a version: the name, with any amount of white space on both
sides. -/
def Names (value : String) (v : Version) : Prop :=
  ∃ w w', Padding w ∧ Padding w' ∧ value.toList = w ++ (v.name.toList ++ w')

/-- No name starts or ends with white space. -/
theorem trimmed_name (v : Version) : Trimmed v.name.toList where
  head c first := by
    rw [← isBlank_iff]
    cases v <;> cases first <;> decide
  last c last := by
    rw [← isBlank_iff]
    cases v <;> cases last <;> decide

/-- So a value is compared after trimming. -/
theorem names_iff {value : String} : Names value v ↔ v.name = trim value :=
  (trim_eq_iff (trimmed_name v)).symm.trans eq_comm

/-- The bytes of a text are read as the text. -/
theorem outcome_ofEnvironment_text (value : String) :
    (ofEnvironment (some value.toUTF8)).outcome =
      ((Version.ofName (trim value)).map Config.mk).mapError .environment := by
  have text : String.fromUTF8? value.toUTF8 = some value := by
    rw [String.fromUTF8?, String.toUTF8_eq_toByteArray, dif_pos value.isValidUTF8]
    rfl
  simp only [ofEnvironment, text]
  cases Version.ofName (trim value) with
  | error e => rfl
  | ok v => rfl

/-- The variable chooses the version that its value names. -/
theorem outcome_ofEnvironment_eq_ok_iff {value : String} :
    (ofEnvironment (some value.toUTF8)).outcome = .ok c ↔ Names value c.version := by
  obtain ⟨v⟩ := c
  rw [outcome_ofEnvironment_text, names_iff, ← Version.ofName_eq_ok_iff]
  cases Version.ofName (trim value) with
  | error e => simp [Except.map, Except.mapError]
  | ok u => simp [Except.map, Except.mapError]

/-- A value that names no version is refused without the white space around it. -/
theorem outcome_ofEnvironment_of_unnamed {value : String} (unnamed : ∀ v, ¬ Names value v) :
    (ofEnvironment (some value.toUTF8)).outcome =
      .error (.environment (.unknownVersion (trim value))) := by
  have unknown : ∀ v : Version, v.name ≠ trim value := fun v same => unnamed v (names_iff.2 same)
  rw [outcome_ofEnvironment_text, Version.ofName_of_unknown unknown]
  rfl

/-- Bytes that are no text are refused as such. -/
theorem outcome_ofEnvironment_of_invalid {bytes : ByteArray} (invalid : ¬ bytes.IsValidUTF8) :
    (ofEnvironment (some bytes)).outcome = .error .notUnicode := by
  have noText : String.fromUTF8? bytes = none := dif_neg invalid
  simp only [ofEnvironment, noText]
  rfl

/-- **The sources agree** on the names of versions. -/
structure SourcesAgree : Prop where
  /-- A string is a name to one reader of names if it is to all, and then it is the name itself. -/
  name : ∀ name v,
    [Version.ofName name = .ok v,
      decode Version.reader (String.ofList (literal name)) = .ok v,
      (ofJson (document name)).outcome = .ok ⟨v⟩,
      v.name = name].TFAE
  /-- A variable that is not set leaves the setting out. -/
  unset : (ofEnvironment none).outcome = .ok default
  /-- Bytes that are no text are refused as such. -/
  notUnicode : ∀ bytes : ByteArray, ¬ bytes.IsValidUTF8 →
    (ofEnvironment (some bytes)).outcome = .error .notUnicode
  /-- A text chooses the version that it names, as its trimmed form does in JSON text. -/
  value : ∀ (value : String) v,
    [(ofEnvironment (some value.toUTF8)).outcome = .ok ⟨v⟩,
      Names value v,
      (ofJson (document (trim value))).outcome = .ok ⟨v⟩].TFAE
  /-- A text that names none is refused, and the default does not stand in. -/
  unnamed : ∀ value : String, (∀ v, ¬ Names value v) →
    (ofEnvironment (some value.toUTF8)).outcome =
      .error (.environment (.unknownVersion (trim value)))

/-- The ways to name a version agree on every string and on every state of the variable. -/
theorem sources_agree : SourcesAgree where
  name := by
    intro name v
    tfae_have 1 ↔ 4 := Version.ofName_eq_ok_iff
    tfae_have 2 ↔ 4 := Version.decode_literal_iff
    tfae_have 3 ↔ 4 := outcome_ofJson_eq_ok_iff.trans decode_document_iff
    tfae_finish
  unset := rfl
  notUnicode _ := outcome_ofEnvironment_of_invalid
  value := by
    intro value v
    tfae_have 1 ↔ 2 := outcome_ofEnvironment_eq_ok_iff
    tfae_have 2 ↔ 3 := by
      rw [names_iff, outcome_ofJson_eq_ok_iff, decode_document_iff]
    tfae_finish
  unnamed _ := outcome_ofEnvironment_of_unnamed

end Config

end Lexicon
