import Lexicon.Config
import Lexicon.Json.Failure
import Lexicon.VocabularyError

/-!
# Faults

Whatever can go wrong in one step of work with a vocabulary: a refusal, a broken promise, a JSON
text or a configuration that cannot be used.
-/

namespace Lexicon

/-- What went wrong. -/
inductive Fault where
  | vocabulary (error : VocabularyError)
  | violation (broken : Violation)
  | json (error : Json.Error)
  | config (error : ConfigError)
  deriving DecidableEq

end Lexicon
