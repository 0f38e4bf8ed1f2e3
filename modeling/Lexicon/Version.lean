/-!
# Versions of the vocabulary

The token vocabulary exists in two versions. A front end chooses one of them, by name, when it is
configured, and keeps to it.
-/

namespace Lexicon

/-- The two versions, the earlier one first. -/
inductive Version where
  /-- The first vocabulary. -/
  | baseline
  /-- The first vocabulary with strings, the colon and square brackets. -/
  | extended
  deriving DecidableEq

namespace Version

/-- The later version is the one a front end gets unless it asks for another. -/
instance : Inhabited Version := ⟨.extended⟩

/-- Both versions, in order. -/
def all : List Version := [.baseline, .extended]

/-- The name by which a version is chosen. -/
def name : Version → String
  | .baseline => "baseline"
  | .extended => "extended"

/-- The capitalised name, for diagnostics. -/
def title : Version → String
  | .baseline => "Baseline"
  | .extended => "Extended"

/-- The environment variable by which a version is chosen. -/
def environmentName : String := "MONKEY_TAXONOMY"

theorem mem_all (v : Version) : v ∈ all := by
  cases v <;> simp [all]

theorem name_injective {v w : Version} (h : v.name = w.name) : v = w := by
  cases v <;> cases w <;> first | rfl | exact absurd h (by decide)

end Version

end Lexicon
