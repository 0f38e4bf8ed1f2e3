import Lexicon.Config
import Lexicon.Proofs.Json.Containers
import Lexicon.Taxonomy

/-!
# The format of configurations

A configuration is one setting.  Its text gives the setting or leaves it out, and says nothing else.
`IsConfig` lists the four forms that this allows: an object or an array, empty or with the version.
The reader accepts these and refuses every other text (`ofJson_reads_format`); a setting that is
there and not understood never becomes the default.

The visitor of an object's members refuses any key but that of the setting, and that one too once
the setting has a value.  So what it makes of a list of members is told by two cases, before and
after the setting (`visits_none_iff`, `visits_some_iff`), and needs no induction.

## Main definitions

* `Version.Denotes` — the pieces of JSON text that stand for a version.
* `Config.IsConfig` — the pieces that stand for a configuration.
-/

namespace Lexicon

open Json

namespace Version

/-- **A piece of JSON text denotes a version**: a literal of its name, or an object with its name as
the key of its one member, whose value is `null`. -/
def Denotes (v : List Char) (version : Version) : Prop :=
  IsLiteral v version.name ∨ IsObject v [(version.name, "null".toList)]

/-- Looking a name up finds the version that bears it. -/
theorem lookup_names_eq_some_iff {name : String} {version : Version} :
    (all.map fun v => (v.name, v)).lookup name = some version ↔ version.name = name := by
  rw [lookup_eq_some_iff (by decide), List.mem_map]
  constructor
  · rintro ⟨v, -, same⟩
    cases same
    rfl
  · rintro rfl
    exact ⟨version, mem_all version, rfl⟩

/-- A version is read from what denotes it. -/
theorem recognises_reader : Recognises reader Denotes :=
  recognises_choice_of_names lookup_names_eq_some_iff

end Version

namespace Config

/-! ## The array form -/

/-- The elements of an array that make a configuration: none, or what denotes its version. -/
def ElementsMake (elements : List (List Char)) (c : Config) : Prop :=
  (elements = [] ∧ c = default) ∨ ∃ x, elements = [x] ∧ Version.Denotes x c.version

theorem recognises_ofArray : ofArray.Recognises .square Eq ElementsMake := by
  intro s c r
  rw [enclosed_eq_ok_iff]
  constructor
  · rintro ⟨t, read, closed⟩
    obtain ⟨w, blanks, rfl⟩ := finish_eq_ok_iff.1 closed
    rw [ofArray] at read
    dsimp only at read
    split at read
    · cases read
    · cases read
      exact ⟨[], .close blanks, .inl ⟨rfl, rfl⟩⟩
    · next found =>
      split at read
      · cases read
      · next version u taken =>
        cases read
        obtain ⟨l, separator, rfl⟩ := item_of_next found
        obtain ⟨w', v, blanks', denotes, split⟩ := Version.recognises_reader.sound taken
        refine ⟨[v], ?_, .inr ⟨v, rfl, denotes⟩⟩
        rw [split, ← List.append_assoc]
        exact .item (separator_append separator blanks') rfl (.close blanks)
  · rintro ⟨elements, contents, ⟨rfl, rfl⟩ | ⟨x, rfl, denotes⟩⟩
    · cases contents with
      | @close _ w _ blanks =>
          refine ⟨_, ?_, finish_eq_ok_iff.2 ⟨w, blanks, rfl⟩⟩
          simp only [ofArray, next_close .square true blanks]
    · cases contents with
      | item separator same rest =>
          subst same
          obtain ⟨d, t, rfl, notBlank, notClose⟩ := Version.recognises_reader.starts denotes
          have taken := Version.recognises_reader.complete blanks_nil denotes rest.ends
          have found := next_item separator notBlank (notClose .square)
          cases rest with
          | @close _ w _ blanks =>
              refine ⟨_, ?_, finish_eq_ok_iff.2 ⟨w, blanks, rfl⟩⟩
              rw [List.nil_append, List.cons_append] at taken
              simp only [ofArray, List.cons_append, found, taken]

/-! ## The object form -/

/-- The members of an object that make a configuration: none, or one with the key of the setting. -/
def MembersMake (members : List (String × List Char)) (c : Config) : Prop :=
  (members = [] ∧ c = default) ∨ ∃ x, members = [(versionKey, x)] ∧ Version.Denotes x c.version

/-- What the setting becomes by the value of a member. -/
def Takes (_ : Option Version) (_ : String) : Json.Language (Option Version) := fun v next =>
  ∃ version, Version.Denotes v version ∧ some version = next

/-- Only the setting is accepted, and only if it has no value yet. -/
theorem exists_visit_eq_ok_iff {setting : Option Version} {key : String} :
    (∃ reader, visit setting key = .ok reader) ↔ key = versionKey ∧ setting = none := by
  unfold visit
  by_cases same : key = versionKey
  · cases setting with
    | none => simp [same]
    | some version => simp [same]
  · simp [same]

theorem recognises_visit {setting : Option Version} {key : String}
    {reader : Reader (Option Version)} (h : visit setting key = .ok reader) :
    Recognises reader (Takes setting key) := by
  obtain ⟨rfl, rfl⟩ := exists_visit_eq_ok_iff.1 ⟨_, h⟩
  cases h
  exact Version.recognises_reader.map some

/-- Once the setting has a value there is no further member. -/
theorem visits_some_iff {version : Version} {members : List (String × List Char)}
    {out : Option Version} :
    Visits visit Takes (some version) members out ↔ members = [] ∧ out = some version := by
  cases members with
  | nil => simp [visits_nil_iff]
  | cons member members =>
      obtain ⟨key, v⟩ := member
      simp [visits_cons_iff, exists_visit_eq_ok_iff]

/-- Before that there is none, or it is the setting. -/
theorem visits_none_iff {members : List (String × List Char)} {out : Option Version} :
    Visits visit Takes none members out ↔
      (members = [] ∧ out = none) ∨
        ∃ x version, members = [(versionKey, x)] ∧ Version.Denotes x version ∧
          out = some version := by
  cases members with
  | nil => simp [visits_nil_iff]
  | cons member members =>
      obtain ⟨key, v⟩ := member
      simp only [visits_cons_iff, exists_visit_eq_ok_iff, Takes]
      constructor
      · rintro ⟨_, ⟨⟨rfl, -⟩, version, denotes, rfl⟩, rest⟩
        obtain ⟨rfl, rfl⟩ := visits_some_iff.1 rest
        exact .inr ⟨v, version, rfl, denotes, rfl⟩
      · rintro (⟨none, -⟩ | ⟨x, version, same, denotes, rfl⟩)
        · cases none
        · cases same
          exact ⟨_, ⟨⟨rfl, trivial⟩, version, denotes, rfl⟩, visits_some_iff.2 ⟨rfl, rfl⟩⟩

theorem ofObject_read_eq_ok_iff {s r : List Char} {c : Config} :
    ofObject.read s = .ok (c, r) ↔
      ∃ setting, members visit true none s = .ok (setting, r) ∧ ⟨setting.getD default⟩ = c := by
  rw [ofObject]
  dsimp only
  cases members visit true none s with
  | error e => simp
  | ok read =>
      obtain ⟨setting, t⟩ := read
      simp only [Except.ok.injEq, Prod.mk.injEq]
      constructor
      · rintro ⟨rfl, rfl⟩
        exact ⟨setting, ⟨rfl, rfl⟩, rfl⟩
      · rintro ⟨_, ⟨rfl, rfl⟩, rfl⟩
        exact ⟨rfl, rfl⟩

theorem recognises_ofObject : ofObject.Recognises .curly IsMember MembersMake := by
  intro s c r
  have gathered {out : Option Version} :
      (∃ t, members visit true none s = .ok (out, t) ∧ Bracket.curly.finish t = .ok r) ↔
        ∃ ms, Contents .curly IsMember true s ms r ∧ Visits visit Takes none ms out :=
    members_recognises (L := Takes) recognises_visit
  simp only [enclosed_eq_ok_iff, ofObject_read_eq_ok_iff]
  constructor
  · rintro ⟨t, ⟨setting, read, rfl⟩, closed⟩
    obtain ⟨ms, contents, visits⟩ := gathered.1 ⟨t, read, closed⟩
    refine ⟨ms, contents, ?_⟩
    obtain ⟨rfl, rfl⟩ | ⟨x, version, rfl, denotes, rfl⟩ := visits_none_iff.1 visits
    · exact .inl ⟨rfl, rfl⟩
    · exact .inr ⟨x, rfl, denotes⟩
  · rintro ⟨ms, contents, ⟨rfl, rfl⟩ | ⟨x, rfl, denotes⟩⟩
    · obtain ⟨t, read, closed⟩ :=
        gathered.2 ⟨[], contents, visits_none_iff.2 (.inl ⟨rfl, rfl⟩)⟩
      exact ⟨t, ⟨none, read, rfl⟩, closed⟩
    · obtain ⟨t, read, closed⟩ :=
        gathered.2 ⟨_, contents, visits_none_iff.2 (.inr ⟨x, c.version, rfl, denotes, rfl⟩)⟩
      exact ⟨t, ⟨some c.version, read, rfl⟩, closed⟩

/-! ## Both forms -/

theorem recognises_reader : Recognises reader (IsRecord ElementsMake MembersMake) :=
  recognises_record "FrontEndConfig" recognises_ofArray recognises_ofObject

/-- **A piece of JSON text stands for a configuration** in one of four forms.  The empty ones leave
the setting out and stand for the later version. -/
inductive IsConfig : List Char → Config → Prop
  | emptyObject {v : List Char} (object : IsObject v []) : IsConfig v ⟨.extended⟩
  | object {v x : List Char} {version : Version} (object : IsObject v [("taxonomy", x)])
      (denotes : Version.Denotes x version) : IsConfig v ⟨version⟩
  | emptyArray {v : List Char} (array : IsArray v []) : IsConfig v ⟨.extended⟩
  | array {v x : List Char} {version : Version} (array : IsArray v [x])
      (denotes : Version.Denotes x version) : IsConfig v ⟨version⟩

/-- The forms of a record with one setting. -/
theorem isRecord_iff_isConfig {v : List Char} {c : Config} :
    IsRecord ElementsMake MembersMake v c ↔ IsConfig v c := by
  constructor
  · rintro (⟨_, array, ⟨rfl, rfl⟩ | ⟨x, rfl, denotes⟩⟩ |
      ⟨_, object, ⟨rfl, rfl⟩ | ⟨x, rfl, denotes⟩⟩)
    · exact .emptyArray array
    · exact .array array denotes
    · exact .emptyObject object
    · exact .object object denotes
  · intro h
    cases h with
    | emptyObject object => exact .inr ⟨_, object, .inl ⟨rfl, rfl⟩⟩
    | object object denotes => exact .inr ⟨_, object, .inr ⟨_, rfl, denotes⟩⟩
    | emptyArray array => exact .inl ⟨_, array, .inl ⟨rfl, rfl⟩⟩
    | array array denotes => exact .inl ⟨_, array, .inr ⟨_, rfl, denotes⟩⟩

/-- A text stands for a configuration if, blanks around it aside, it is one in form. -/
def HasFormat (text : String) (c : Config) : Prop :=
  ∃ w v w', Blanks w ∧ Blanks w' ∧ text.toList = w ++ (v ++ w') ∧ IsConfig v c

theorem decode_eq_ok_iff_hasFormat {text : String} {c : Config} :
    decode reader text = .ok c ↔ HasFormat text c := by
  rw [recognises_reader.decode_eq_ok_iff]
  simp only [isRecord_iff_isConfig, HasFormat]
  constructor
  · rintro ⟨w, v, w', blanks, isConfig, blanks', split⟩
    exact ⟨w, v, w', blanks, blanks', split, isConfig⟩
  · rintro ⟨w, v, w', blanks, blanks', split, isConfig⟩
    exact ⟨w, v, w', blanks, isConfig, blanks', split⟩

/-- Choosing a version from a text is reading it; a refusal is one of the text. -/
theorem outcome_ofJson (text : String) :
    (ofJson text).outcome = (decode reader text).mapError .json := by
  rw [ofJson]
  cases decode reader text with
  | error e => rfl
  | ok c => rfl

theorem outcome_ofJson_eq_ok_iff {text : String} {c : Config} :
    (ofJson text).outcome = .ok c ↔ decode reader text = .ok c := by
  rw [outcome_ofJson]
  cases decode reader text with
  | error e => simp [Except.mapError]
  | ok c => simp [Except.mapError]

/-- A text that is not read is refused for what stands in it. -/
theorem exists_outcome_ofJson_eq_error_iff {text : String} :
    (∃ e, (ofJson text).outcome = .error (.json e)) ↔ ¬ ∃ c, decode reader text = .ok c := by
  rw [outcome_ofJson]
  cases decode reader text with
  | error e => simp [Except.mapError]
  | ok c => simp [Except.mapError]

/-- **The format of a configuration.**  A text is read as a configuration if and only if it stands
for it, and refused as JSON text if it stands for none. -/
theorem ofJson_reads_format (text : String) :
    (∀ c, (ofJson text).outcome = .ok c ↔ HasFormat text c) ∧
      ((∃ e, (ofJson text).outcome = .error (.json e)) ↔ ¬ ∃ c, HasFormat text c) := by
  simp only [← decode_eq_ok_iff_hasFormat]
  exact ⟨fun c => outcome_ofJson_eq_ok_iff, exists_outcome_ofJson_eq_error_iff⟩

end Config

end Lexicon
