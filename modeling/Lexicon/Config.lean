import Lexicon.Json.Container
import Lexicon.Json.Literal
import Lexicon.Text.Blank
import Lexicon.Traced
import Lexicon.VocabularyError

/-!
# Front end configuration

A front end is configured by one setting, the version of its vocabulary. The setting comes from a
JSON text or from an environment variable; a choice that was made is reported.

## Main definitions

* `Config`, `Config.json`, `Config.debugText` — the setting and its texts.
* `Config.ofJson`, `Config.ofEnvironment` — the two sources.
* `ConfigError` — why a source is refused.

## Design notes

The default stands in only for a setting that is not there: an empty record, or a variable that is
not set. A setting that is there and is not understood is refused.
-/

namespace Lexicon

/-- The configuration of a front end. -/
structure Config where
  /-- The version of the vocabulary. -/
  version : Version := default
  deriving DecidableEq

instance : Inhabited Config := ⟨{}⟩

/-- Why a configuration is refused. -/
inductive ConfigError where
  /-- The JSON text is refused. -/
  | json (error : Json.Error)
  /-- The environment variable names no version. -/
  | environment (error : VocabularyError)
  /-- The environment variable holds bytes that are no text. -/
  | notUnicode
  deriving DecidableEq

namespace ConfigError

/-- The sentence shown to a user. -/
def message : ConfigError → String
  | .json error => "Failed to parse JSON config: " ++ error.message
  | .environment error =>
    "Invalid value for environment variable " ++ Version.environmentName ++ ": " ++ error.message
  | .notUnicode =>
    "Environment variable " ++ Version.environmentName ++ " is not valid unicode"

/-- The sentence of the failure behind this one. -/
def source? : ConfigError → Option String
  | .json error => some error.message
  | .environment error => some error.message
  | .notUnicode => none

end ConfigError

/-- Reads a version by its name. -/
def Version.reader : Json.Reader Version :=
  Json.choice (Version.all.map fun v => (v.name, v))

/-- The JSON text of a version: its name. -/
def Version.json (v : Version) : String :=
  String.ofList (Json.literal v.name)

namespace Config

/-- The name of the setting in JSON text. -/
def versionKey : String := "taxonomy"

/-- The JSON text of a configuration. -/
def json (c : Config) : String :=
  String.ofList (Json.object [Json.member versionKey (Json.literal c.version.name)])

/-- The diagnostic form. -/
def debugText (c : Config) : String :=
  "FrontEndConfig " ++ Text.braced [("taxonomy", c.version.title)]

/-- The setting may occur once, and there is no other. -/
def visit : Json.Visitor (Option Version) := fun version key =>
  if key = versionKey then
    match version with
    | some _ => .error (.repeatedField key)
    | none => .ok (Version.reader.map some)
  else .error (.unknownField key versionKey)

/-- A configuration written as an array of at most one element. -/
def ofArray : Json.Content Config where
  read s :=
    match Json.Bracket.square.next true s with
    | .error e => .error e
    | .ok none => .ok (default, s)
    | .ok (some (c, t)) =>
      match Version.reader.read (c :: t) with
      | .error e => .error e
      | .ok (version, r) => .ok (⟨version⟩, r)
  notLonger {s c r} h := by
    split at h
    · cases h
    · cases h
      exact Nat.le_refl _
    · next found =>
      have := Json.Bracket.length_lt_of_next found
      split at h
      · cases h
      · next read =>
        have := Version.reader.shorter read
        cases h
        rw [List.length_cons] at this
        omega

/-- A configuration written as an object. -/
def ofObject : Json.Content Config where
  read s :=
    match Json.members visit true none s with
    | .error e => .error e
    | .ok (version, r) => .ok (⟨version.getD default⟩, r)
  notLonger {s c r} h := by
    split at h
    · cases h
    · next read =>
      cases h
      exact Json.length_le_of_members read

/-- Reads a configuration. -/
def reader : Json.Reader Config :=
  Json.record "FrontEndConfig" ofArray ofObject

/-- The configuration that a JSON text holds. -/
def ofJson (text : String) : Traced ConfigError Config :=
  match Json.decode reader text with
  | .error e => .fail (.json e)
  | .ok config => do
    Traced.report (.selected config.version .json)
    return config

/-- The configuration that the environment asks for, given the bytes of the variable if it is set.
Blanks around the name do not count. -/
def ofEnvironment : Option ByteArray → Traced ConfigError Config
  | none => pure default
  | some value =>
    match String.fromUTF8? value with
    | none => .fail .notUnicode
    | some text =>
      match Version.ofName (Text.trim text) with
      | .error e => .fail (.environment e)
      | .ok version => do
        Traced.report (.selected version .environment)
        return ⟨version⟩

end Config

end Lexicon
