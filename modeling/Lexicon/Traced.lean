import Lexicon.Log

/-!
# Traced computations

A computation that reports what it does yields an outcome together with the records it made, in the
order in which it made them. When a step fails, the records made before it stay and nothing after it
runs.
-/

namespace Lexicon

/-- An outcome with the records made on the way to it. -/
structure Traced (ε α : Type) where
  /-- The value, or the cause of a failure. -/
  outcome : Except ε α
  /-- What was reported, the earliest first. -/
  records : List Log.Record

namespace Traced

variable {ε φ α β : Type}

/-- A failure, silently. -/
def fail (cause : ε) : Traced ε α := ⟨.error cause, []⟩

/-- An outcome reached silently. -/
def ofExcept (outcome : Except ε α) : Traced ε α := ⟨outcome, []⟩

/-- Makes one record. -/
def report (record : Log.Record) : Traced ε Unit := ⟨.ok (), [record]⟩

/-- Goes on with the value, if there is one; the records follow one another. -/
protected def bind (x : Traced ε α) (next : α → Traced ε β) : Traced ε β :=
  match x.outcome with
  | .ok a => ⟨(next a).outcome, x.records ++ (next a).records⟩
  | .error cause => ⟨.error cause, x.records⟩

instance : Monad (Traced ε) where
  pure a := ⟨.ok a, []⟩
  bind := Traced.bind

/-- Renames the causes of failure. -/
def mapError (f : ε → φ) (x : Traced ε α) : Traced φ α :=
  ⟨x.outcome.mapError f, x.records⟩

/-- Converting the value converts the outcome. -/
@[simp]
theorem outcome_map (f : α → β) (x : Traced ε α) : (f <$> x).outcome = x.outcome.map f := by
  show (Traced.bind x fun a => pure (f a)).outcome = _
  rw [Traced.bind]
  cases x.outcome with
  | ok a => rfl
  | error cause => rfl

/-- Converting the value reports nothing. -/
@[simp]
theorem records_map (f : α → β) (x : Traced ε α) : (f <$> x).records = x.records := by
  show (Traced.bind x fun a => pure (f a)).records = _
  rw [Traced.bind]
  cases x.outcome with
  | ok a => exact List.append_nil _
  | error cause => rfl

end Traced

end Lexicon
