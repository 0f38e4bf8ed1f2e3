import Lexicon.Recipe
import Lexicon.Script

/-!
# Sessions

A session holds a configuration and a stack of tokens. Tokens are made in the version that is
configured at the time, and those made earlier stay in theirs.

## Main definitions

* `Session`, `Session.Step`, `Session.perform` — the state and what can be done to it.
* `Session.distinct`, `Session.keywords`, `Session.wellFormed` — counts over the tokens.
-/

namespace Lexicon

/-- A configuration with a stack of tokens. -/
structure Session where
  config : Config := default
  /-- The tokens, the newest first. -/
  tokens : List AnyToken := []

namespace Session

/-- What can be done in a session. -/
inductive Step where
  /-- Configures from a JSON text. -/
  | configureJson (text : String)
  /-- Configures from the environment. -/
  | configureEnvironment (value : Option ByteArray)
  /-- Makes a token and puts it on the stack. -/
  | push (recipe : Recipe)
  /-- Takes the newest token off the stack. -/
  | pop
  /-- Moves the newest token to the extended version. -/
  | widen
  /-- Moves the newest token to the baseline, if it has it. -/
  | narrow

/-- The answer to a step. -/
inductive Reply where
  | config (c : Config)
  /-- The newest token, or the one taken off, if there is one. -/
  | token (t : Option AnyToken)

/-- Performs a step. -/
def perform (s : Session) : Step → Traced Fault (Reply × Session)
  | .configureJson text => do
    let config ← (Config.ofJson text).mapError .config
    return (.config config, { s with config })
  | .configureEnvironment value => do
    let config ← (Config.ofEnvironment value).mapError .config
    return (.config config, { s with config })
  | .push recipe => do
    let token ← recipe.makeAny s.config.version
    return (.token (some token), { s with tokens := token :: s.tokens })
  | .pop =>
    match s.tokens with
    | [] => pure (.token none, s)
    | token :: rest => pure (.token (some token), { s with tokens := rest })
  | .widen =>
    match s.tokens with
    | [] => pure (.token none, s)
    | token :: rest => pure (.token (some token.widen), { s with tokens := token.widen :: rest })
  | .narrow =>
    match s.tokens with
    | [] => pure (.token none, s)
    | token :: rest => do
      let narrowed ← (Traced.ofExcept token.narrow).mapError .vocabulary
      return (.token (some narrowed), { s with tokens := narrowed :: rest })

/-- The number of tokens. -/
def count (s : Session) : Nat := s.tokens.length

/-- The number of different tokens. Tokens of different versions are different. -/
def distinct (s : Session) : Nat := s.tokens.eraseDups.length

/-- The number of keyword tokens. -/
def keywords (s : Session) : Nat := s.tokens.countP AnyToken.isKeyword

/-- The number of well-formed tokens. -/
def wellFormed (s : Session) : Nat := s.tokens.countP AnyToken.isWellFormed

end Session

end Lexicon
