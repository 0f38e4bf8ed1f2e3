import Lexicon.Traced

/-!
# Scripts

A script is a list of steps performed one after another on a state. A step that fails leaves the
state as it was, and the next step is performed all the same.
-/

namespace Lexicon

/-- What one step of a script came to. -/
structure Script.Entry (ε ρ σ : Type) where
  /-- The reply, or why there is none. -/
  reply : Except ε ρ
  /-- The state after the step. -/
  state : σ

namespace Script

variable {ι ε ρ σ : Type}

/-- One step: on success the state is replaced. -/
def advance (perform : σ → ι → Traced ε (ρ × σ)) (state : σ) (step : ι) : Entry ε ρ σ :=
  match (perform state step).outcome with
  | .ok (reply, state) => ⟨.ok reply, state⟩
  | .error cause => ⟨.error cause, state⟩

/-- The entries of a script, with the records of all its steps. -/
def run (perform : σ → ι → Traced ε (ρ × σ)) (state : σ) :
    List ι → List (Entry ε ρ σ) × List Log.Record
  | [] => ([], [])
  | step :: steps =>
    let entry := advance perform state step
    let later := run perform entry.state steps
    (entry :: later.1, (perform state step).records ++ later.2)

/-- The state that a script leaves behind. -/
def final (perform : σ → ι → Traced ε (ρ × σ)) (state : σ) (steps : List ι) : σ :=
  steps.foldl (fun state step => (advance perform state step).state) state

end Script

end Lexicon
