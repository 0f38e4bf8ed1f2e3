import Lexicon.Number.Shortest
import Lexicon.Text.Quoted

/-!
# Why JSON text is refused

The causes for which a reader gives up, each with its sentence. They fall into three kinds: the text
ends too early, it is no JSON, or it is JSON of another shape than the one asked for.

## Main definitions

* `Found` — the kind of a value that stands where another was expected.
* `Cause`, `Cause.kind`, `Cause.message` — why a text is refused.
-/

namespace Lexicon.Json

open Number
open Text (quote)

/-- What kind of value was found. -/
inductive Found where
  | null
  | boolean (value : Bool)
  | integer (negative : Bool) (magnitude : Nat)
  | double (negative : Bool) (magnitude : Double)
  | text (value : String)
  | sequence
  | map
  deriving DecidableEq

/-- Doubles are written positionally from a hundred-thousandth to below ten to the sixteenth. -/
def doubleLayout : Decimal.Layout := ⟨-5, 16⟩

/-- The minus sign of a negative number. -/
def sign (negative : Bool) : String :=
  if negative then "-" else ""

/-- How a found value is named in a message. -/
def Found.name : Found → String
  | .null => "null"
  | .boolean true => "boolean `true`"
  | .boolean false => "boolean `false`"
  | .integer negative n => "integer `" ++ sign negative ++ toString n ++ "`"
  | .double negative x => "floating point `" ++ sign negative ++ x.text doubleLayout ++ "`"
  | .text s => "string " ++ quote s
  | .sequence => "sequence"
  | .map => "map"

/-- Why a text is refused. -/
inductive Cause where
  /-- The text ends where a value should start or go on. -/
  | cutValue
  /-- The text ends inside a string. -/
  | cutString
  /-- The text ends inside an array. -/
  | cutList
  /-- The text ends inside an object. -/
  | cutObject
  /-- No value starts here. -/
  | noValue
  /-- A word starts like `null`, `true` or `false` but is another. -/
  | noWord
  /-- A key is not followed by a colon. -/
  | noColon
  /-- An array goes on without a comma. -/
  | noCommaInList
  /-- An object goes on without a comma. -/
  | noCommaInObject
  /-- A key is not a string. -/
  | keyNotString
  /-- A comma is the last thing inside brackets. -/
  | trailingComma
  /-- Text follows where none is expected. -/
  | trailingText
  /-- A control character stands unescaped in a string. -/
  | controlCharacter
  /-- A backslash starts no escape. -/
  | badEscape
  /-- Half of a surrogate pair stands alone. -/
  | loneSurrogate
  /-- The first half of a surrogate pair is not followed by an escape. -/
  | brokenPair
  /-- A numeral is not one. -/
  | badNumber
  /-- A number is above all doubles. -/
  | hugeNumber
  /-- The value is of another kind than expected. -/
  | mistyped (found : Found) (expected : String)
  /-- A name is none of the known ones. -/
  | unknownVariant (name : String) (known : List String)
  /-- A record has no field of this name, but one called `known`. -/
  | unknownField (name known : String)
  /-- A field of a record occurs again. -/
  | repeatedField (name : String)
  /-- A field of a record is not there. -/
  | missingField (name : String)
  /-- A record written as an array has too few elements. -/
  | tooShort (length : Nat) (record : String) (fields : Nat)
  deriving DecidableEq

/-- The three ways in which reading goes wrong. -/
inductive Kind where
  /-- The text is no JSON. -/
  | malformed
  /-- The text is JSON of another shape. -/
  | misshapen
  /-- The text ends too early. -/
  | truncated
  deriving DecidableEq

/-- The name of a kind. -/
def Kind.name : Kind → String
  | .malformed => "Syntax"
  | .misshapen => "Data"
  | .truncated => "Eof"

namespace Cause

/-- The kind of a cause. -/
def kind : Cause → Kind
  | .cutValue | .cutString | .cutList | .cutObject => .truncated
  | .mistyped _ _ | .unknownVariant _ _ | .unknownField _ _ | .repeatedField _ | .missingField _
  | .tooShort _ _ _ => .misshapen
  | _ => .malformed

/-- The known names as a message lists them. -/
def alternatives (known : List String) : String :=
  match known.map fun name => "`" ++ name ++ "`" with
  | [a, b] => a ++ " or " ++ b
  | names => "one of " ++ String.intercalate ", " names

/-- The sentence for a cause, without its place. -/
def message : Cause → String
  | .cutValue => "EOF while parsing a value"
  | .cutString => "EOF while parsing a string"
  | .cutList => "EOF while parsing a list"
  | .cutObject => "EOF while parsing an object"
  | .noValue => "expected value"
  | .noWord => "expected ident"
  | .noColon => "expected `:`"
  | .noCommaInList => "expected `,` or `]`"
  | .noCommaInObject => "expected `,` or `" ++ String.singleton '}' ++ "`"
  | .keyNotString => "key must be a string"
  | .trailingComma => "trailing comma"
  | .trailingText => "trailing characters"
  | .controlCharacter => "control character (\\u0000-\\u001F) found while parsing a string"
  | .badEscape => "invalid escape"
  | .loneSurrogate => "lone leading surrogate in hex escape"
  | .brokenPair => "unexpected end of hex escape"
  | .badNumber => "invalid number"
  | .hugeNumber => "number out of range"
  | .mistyped found expected => "invalid type: " ++ found.name ++ ", expected " ++ expected
  | .unknownVariant name known =>
    "unknown variant `" ++ name ++ "`, expected " ++ alternatives known
  | .unknownField name known => "unknown field `" ++ name ++ "`, expected `" ++ known ++ "`"
  | .repeatedField name => "duplicate field `" ++ name ++ "`"
  | .missingField name => "missing field `" ++ name ++ "`"
  | .tooShort length record fields =>
    "invalid length " ++ toString length ++ ", expected struct " ++ record ++ " with " ++
      toString fields ++ " elements"

end Cause

end Lexicon.Json
