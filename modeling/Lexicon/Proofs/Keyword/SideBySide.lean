import Lexicon.Proofs.Keyword.Checking

/-!
# The two builders side by side

A fixed list and a list to be checked are run through in the same way, entry by entry into the same
table.  The two runs differ at one kind of entry, the foreign one, which is no keyword under its own
spelling: there the checking run stops, while the other goes on and may still come to either end.
Up to the first foreign entry they are one run.  So they build the same table, stop at the same
repetition, or part at a foreign entry; `SideBySide` lists these three ends, and a simultaneous
induction on both runs shows that there is no other (`sideBySide_foldlM`).

## Main definitions

* `Foreign` — an entry that is refused whatever stands before it, with the cause.
* `SideBySide` — how the two runs over one list may end.
* `BuildersAgree` — where both builders apply, they agree.
-/

namespace Lexicon.Keyword.Table

open Taxonomy

variable {κ : Type} [Taxonomy κ] {entry : String × κ} {entries rest : List (String × κ)}
variable {t u : Table κ} {e : VocabularyError}

/-! ## Foreign entries -/

/-- **A foreign entry**, with the cause for which it is refused: its category is no keyword, or is
one of another spelling. -/
inductive Foreign : String × κ → VocabularyError → Prop where
  | notKeyword {s : String} {c : κ} (unspelled : spelling? c = none) :
    Foreign (s, c) (.notKeyword (label c))
  | misspelled {s expected : String} {c : κ} (spelled : spelling? c = some expected)
      (differs : s ≠ expected) :
    Foreign (s, c) (.misspelledKeyword s expected)

/-- No foreign entry is refused as a repetition. -/
theorem Foreign.ne_repeatedKeyword (h : Foreign entry e) (s : String) : e ≠ .repeatedKeyword s := by
  cases h with
  | notKeyword unspelled => exact nofun
  | misspelled spelled differs => exact nofun

/-- A foreign entry is no keyword under its own spelling. -/
theorem Foreign.not_own (h : Foreign entry e) : spelling? entry.2 ≠ some entry.1 := by
  cases h with
  | notKeyword unspelled => simp [unspelled]
  | misspelled spelled differs => simpa [spelled] using differs.symm

/-- And any entry that is none is foreign. -/
theorem foreign_causeOf (other : spelling? entry.2 ≠ some entry.1) :
    Foreign entry (causeOf entry) := by
  obtain ⟨s, c⟩ := entry
  rw [causeOf]
  cases spelled : spelling? c with
  | none => exact .notKeyword spelled
  | some expected =>
      have differs : s ≠ expected := fun same => other (by rw [spelled, same])
      simp only [if_neg differs]
      exact .misspelled spelled differs

/-- **The first foreign entry** of a list, with its cause. -/
def FirstForeign (entries : List (String × κ)) (e : VocabularyError) : Prop :=
  ∃ before entry after, entries = before ++ entry :: after ∧
    (∀ earlier ∈ before, spelling? earlier.2 = some earlier.1) ∧ Foreign entry e

theorem firstForeign_cons_self (h : Foreign entry e) : FirstForeign (entry :: rest) e :=
  ⟨[], entry, rest, rfl, fun _ listed => absurd listed List.not_mem_nil, h⟩

theorem FirstForeign.cons (own : spelling? entry.2 = some entry.1) (h : FirstForeign rest e) :
    FirstForeign (entry :: rest) e := by
  obtain ⟨before, foreign, after, rfl, earlier, cause⟩ := h
  exact ⟨entry :: before, foreign, after, rfl, List.forall_mem_cons.2 ⟨own, earlier⟩, cause⟩

/-- A list with a foreign entry does not hold keywords under their own spellings only. -/
theorem FirstForeign.exists_not_own (h : FirstForeign entries e) :
    ∃ entry ∈ entries, spelling? entry.2 ≠ some entry.1 := by
  obtain ⟨before, entry, after, rfl, -, foreign⟩ := h
  exact ⟨entry, by simp, foreign.not_own⟩

/-- A first foreign entry is not refused as a repetition either. -/
theorem FirstForeign.ne_repeatedKeyword (h : FirstForeign entries e) (s : String) :
    e ≠ .repeatedKeyword s := by
  obtain ⟨before, entry, after, -, -, foreign⟩ := h
  exact foreign.ne_repeatedKeyword s

/-! ## Two runs -/

/-- **How the two runs over a list may end**, the run that does not check first. -/
inductive SideBySide (entries : List (String × κ)) :
    Except Violation (Table κ) → Except VocabularyError (Table κ) → Prop where
  /-- Both come to the end of the list, with the same table. -/
  | built (t : Table κ) (own : ∀ entry ∈ entries, spelling? entry.2 = some entry.1) :
    SideBySide entries (.ok t) (.ok t)
  /-- Both stop at a repetition, and it is the same. -/
  | repeated (s : String) :
    SideBySide entries (.error (.listedTwice s)) (.error (.repeatedKeyword s))
  /-- The checking run stops at the first foreign entry, however the other ends. -/
  | parted (outcome : Except Violation (Table κ)) {e : VocabularyError}
      (foreign : FirstForeign entries e) :
    SideBySide entries outcome (.error e)

/-- What two runs do behind a keyword under its own spelling, they do from it on. -/
theorem SideBySide.cons {fixed : Except Violation (Table κ)}
    {checked : Except VocabularyError (Table κ)} (own : spelling? entry.2 = some entry.1)
    (h : SideBySide rest fixed checked) : SideBySide (entry :: rest) fixed checked := by
  cases h with
  | built t all => exact .built t (List.forall_mem_cons.2 ⟨own, all⟩)
  | repeated s => exact .repeated s
  | parted _ foreign => exact .parted _ (foreign.cons own)

/-- **The two runs over a list**, from the same table.  By induction on the list: at a keyword under
its own spelling both do the same, at any other entry they part. -/
theorem sideBySide_foldlM (t : Table κ) (entries : List (String × κ)) :
    SideBySide entries (entries.foldlM insert t) (entries.foldlM insertChecked t) := by
  induction entries generalizing t with
  | nil => exact .built t fun _ listed => absurd listed List.not_mem_nil
  | cons entry rest ih =>
      rw [List.foldlM_cons, List.foldlM_cons]
      by_cases own : spelling? entry.2 = some entry.1
      · -- Both runs insert the entry into the same table, or find it repeated there.
        rw [insert, insertChecked_of_own own]
        cases t.insertNew? entry with
        | none => exact .repeated entry.1
        | some u => exact (ih u).cons own
      · -- The checking run ends here; how the other one goes on does not matter.
        rw [insertChecked, checkEntry_of_not_own own]
        exact .parted _ (firstForeign_cons_self (foreign_causeOf own))

/-- The two ways to build, from the same list. -/
theorem sideBySide (entries : List (String × κ)) :
    SideBySide entries (ofEntries entries).outcome (checked entries) := by
  rw [outcome_ofEntries]
  exact sideBySide_foldlM empty entries

section Ends

variable {fixed : Except Violation (Table κ)} {checked : Except VocabularyError (Table κ)}

/-- An accepted list is built into the same table without a check. -/
theorem SideBySide.fixed_of_ok (h : SideBySide entries fixed checked) (accepted : checked = .ok t) :
    fixed = .ok t := by
  subst accepted
  cases h with
  | built t own => rfl

/-- What is refused as a repetition is one without a check. -/
theorem SideBySide.fixed_of_repeated (h : SideBySide entries fixed checked) {s : String}
    (refused : checked = .error (.repeatedKeyword s)) : fixed = .error (.listedTwice s) := by
  subst refused
  cases h with
  | repeated s => rfl
  | parted _ foreign => exact absurd rfl (foreign.ne_repeatedKeyword s)

/-- A run that breaks a promise is refused by the check, for one cause or another. -/
theorem SideBySide.exists_error (h : SideBySide entries fixed checked) {violation : Violation}
    (broken : fixed = .error violation) : ∃ e, checked = .error e := by
  subst broken
  cases h with
  | repeated s => exact ⟨_, rfl⟩
  | parted _ foreign => exact ⟨_, rfl⟩

/-- A list that breaks no promise is not refused as a repetition. -/
theorem SideBySide.ne_repeatedKeyword (h : SideBySide entries fixed checked) (built : fixed = .ok t)
    (s : String) : checked ≠ .error (.repeatedKeyword s) := by
  intro refused
  have broken := h.fixed_of_repeated refused
  rw [built] at broken
  cases broken

/-- If it is refused, its first foreign entry gives the cause. -/
theorem SideBySide.firstForeign_of_error (h : SideBySide entries fixed checked)
    (built : fixed = .ok t) (refused : checked = .error e) : FirstForeign entries e := by
  subst built refused
  cases h with
  | parted _ foreign => exact foreign

/-- So it is accepted exactly if it holds keywords under their own spellings only. -/
theorem SideBySide.exists_ok_iff (h : SideBySide entries fixed checked) (built : fixed = .ok t) :
    (∃ u, checked = .ok u) ↔ ∀ entry ∈ entries, spelling? entry.2 = some entry.1 := by
  subst built
  cases h with
  | built t own => exact iff_of_true ⟨t, rfl⟩ own
  | parted _ foreign =>
      obtain ⟨entry, listed, other⟩ := foreign.exists_not_own
      exact iff_of_false nofun fun own => other (own entry listed)

end Ends

/-! ## Agreement -/

/-- **The two builders agree** on a list, wherever both apply to it. -/
structure BuildersAgree (entries : List (String × κ)) : Prop where
  /-- What the check accepts breaks no promise, and the tables cannot be told apart. -/
  accepted : ∀ t, checked entries = .ok t →
    ∃ u, (ofEntries entries).outcome = .ok u ∧ u.SameAnswers t
  /-- What the check refuses as a repetition breaks the promise at the same spelling. -/
  repeated : ∀ s, checked entries = .error (.repeatedKeyword s) →
    (ofEntries entries).outcome = .error (.listedTwice s)
  /-- What breaks the promise is refused by the check. -/
  broken : ∀ violation, (ofEntries entries).outcome = .error violation →
    ∃ e, checked entries = .error e
  /-- What breaks no promise is never refused as a repetition, -/
  not_repeated : ∀ t, (ofEntries entries).outcome = .ok t →
    ∀ s, checked entries ≠ .error (.repeatedKeyword s)
  /-- and it is accepted exactly if it holds keywords under their own spellings only. -/
  accepted_iff : ∀ t, (ofEntries entries).outcome = .ok t →
    ((∃ u, checked entries = .ok u) ↔ ∀ s c, (s, c) ∈ entries → spelling? c = some s)

/-- Whatever the entries of a list are, the two builders agree on it. -/
theorem builders_agree (entries : List (String × κ)) : BuildersAgree entries where
  accepted t ok := ⟨t, (sideBySide entries).fixed_of_ok ok, sameAnswers_of_perm (.refl _)⟩
  repeated _ := (sideBySide entries).fixed_of_repeated
  broken _ := (sideBySide entries).exists_error
  not_repeated _ := (sideBySide entries).ne_repeatedKeyword
  accepted_iff t built := by
    rw [(sideBySide entries).exists_ok_iff built, Prod.forall]

/-- A repetition stops both builders.  Where it stands behind a misspelled keyword, the check never
comes to it; where it is missing, the misspelling alone decides. -/
theorem builders_on_let_and_func :
    (checked [("let", Baseline.letKeyword), ("let", .letKeyword), ("func", .fnKeyword)] =
        .error (.repeatedKeyword "let") ∧
      (ofEntries [("let", Baseline.letKeyword), ("let", .letKeyword), ("func", .fnKeyword)]).outcome =
        .error (.listedTwice "let")) ∧
    ((ofEntries [("func", Extended.fnKeyword), ("let", .letKeyword), ("let", .colon)]).outcome =
        .error (.listedTwice "let") ∧
      ∃ e, checked [("func", Extended.fnKeyword), ("let", .letKeyword), ("let", .colon)] =
        .error e) ∧
    ∃ t : Table Baseline,
      (ofEntries [("let", .letKeyword), ("func", .fnKeyword)]).outcome = .ok t ∧
        ¬ ∃ u : Table Baseline, checked [("let", .letKeyword), ("func", .fnKeyword)] = .ok u := by
  have repeated : checked [("let", Baseline.letKeyword), ("let", .letKeyword),
      ("func", .fnKeyword)] = .error (.repeatedKeyword "let") := rfl
  have broken : (ofEntries [("func", Extended.fnKeyword), ("let", .letKeyword),
      ("let", .colon)]).outcome = .error (.listedTwice "let") := rfl
  have built : (ofEntries [("let", Baseline.letKeyword), ("func", .fnKeyword)]).outcome =
      .ok ⟨[("let", .letKeyword), ("func", .fnKeyword)], by decide⟩ := rfl
  refine ⟨⟨repeated, (builders_agree _).repeated _ repeated⟩,
    ⟨broken, (builders_agree _).broken _ broken⟩, _, built, ?_⟩
  rw [(builders_agree _).accepted_iff _ built]
  intro own
  exact absurd (own "func" .fnKeyword (by simp)) (by decide)

end Lexicon.Keyword.Table
