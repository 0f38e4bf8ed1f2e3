import Lexicon.Text.Quoted
import Lexicon.Version

/-!
# Log records

The vocabulary reports three kinds of events. A record holds what happened; its level, its target
and its line of text follow from that.
-/

namespace Lexicon.Log

open Text (quote)

/-- How prominent a record is. -/
inductive Level where
  | trace | debug | info
  deriving DecidableEq

/-- The name of a level in a log line. -/
def Level.name : Level → String
  | .trace => "TRACE"
  | .debug => "DEBUG"
  | .info => "INFO"

/-- Where a front end was told its version. -/
inductive Origin where
  | json | environment
  deriving DecidableEq

/-- What happened. -/
inductive Record where
  /-- A keyword table of so many entries was built from a fixed list. -/
  | built (version : Version) (size : Nat)
  /-- A word was given the category with this label. -/
  | classified (spelling label : String)
  /-- A front end chose a version. -/
  | selected (version : Version) (origin : Origin)
  deriving DecidableEq

namespace Record

/-- Classification is traced, building is for debugging, a choice of version is news. -/
def level : Record → Level
  | .built _ _ => .debug
  | .classified _ _ => .trace
  | .selected _ _ => .info

/-- The part of the program that a record comes from. -/
def target : Record → String
  | .built _ _ | .classified _ _ => "monkey_tokens::keywords"
  | .selected _ _ => "monkey_tokens::config"

/-- The line of text. A classified word is quoted, for it may hold anything. -/
def text : Record → String
  | .built version size =>
    "built " ++ version.name ++ " keyword table with " ++ toString size ++ " entries"
  | .classified spelling label => "classified " ++ quote spelling ++ " as " ++ label
  | .selected version .json => "front end targets the " ++ version.name ++ " taxonomy"
  | .selected version .environment =>
    "front end targets the " ++ version.name ++ " taxonomy (" ++ Version.environmentName ++ ")"

end Record

end Lexicon.Log
