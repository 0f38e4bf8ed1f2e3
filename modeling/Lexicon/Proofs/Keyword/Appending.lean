import Lexicon.Keyword.Table
import Mathlib.Order.Bounds.Basic

/-!
# Building a table entry by entry

Both ways to build a keyword table run through a list and, at every entry, either append it or
refuse the list.  They differ in which entry may stand where (`Fits`), and in the cause for which
one is refused (`cause`).  This module describes such a run once, for any `Fits` and any `cause`.

What decides is the set of `Misfits`, the indices whose entry does not fit those before it.  It is a
set of the list alone and mentions neither the run nor a table.  A run succeeds exactly when the set
is empty (`Appends.foldlM_eq_ok_iff`), and otherwise fails for the cause of its least element
(`Appends.foldlM_eq_error_iff`).

## Main definitions

* `Appends` — a step that appends an entry or refuses it.
* `Misfits` — the indices of a list whose entries are refused.
* `IsNew` — the condition that no table can do without: a spelling occurs once.
-/

namespace Lexicon.Keyword.Table

variable {κ ε : Type}

/-- A table is determined by its entries. -/
theorem eq_of_entries {t u : Table κ} (h : t.entries = u.entries) : t = u := by
  cases t
  cases u
  cases h
  rfl

/-- A step of building: the entry is appended if it fits those already there, and otherwise refused
for a cause that the entry alone decides. -/
structure Appends (step : Table κ → String × κ → Except ε (Table κ))
    (Fits : List (String × κ) → String × κ → Prop) (cause : String × κ → ε) : Prop where
  ok : ∀ {t : Table κ} {entry : String × κ}, Fits t.entries entry →
    ∃ u, step t entry = .ok u ∧ u.entries = t.entries ++ [entry]
  error : ∀ {t : Table κ} {entry : String × κ}, ¬ Fits t.entries entry →
    step t entry = .error (cause entry)

/-- The indices of a list whose entries do not fit those before them. -/
def Misfits (Fits : List (String × κ) → String × κ → Prop) (entries : List (String × κ)) :
    Set Nat :=
  {i | ∃ entry, entries[i]? = some entry ∧ ¬ Fits (entries.take i) entry}

/-- An entry whose spelling does not occur before it. -/
def IsNew (earlier : List (String × κ)) (entry : String × κ) : Prop :=
  entry.1 ∉ earlier.map Prod.fst

section Misfits

variable {Fits : List (String × κ) → String × κ → Prop} {entry : String × κ}
variable {entries rest : List (String × κ)} {i : Nat}

theorem misfits_eq_empty_iff :
    Misfits Fits entries = ∅ ↔
      ∀ i entry, entries[i]? = some entry → Fits (entries.take i) entry := by
  simp only [Set.eq_empty_iff_forall_notMem, Misfits, Set.mem_ofPred_eq, not_exists, not_and,
    Classical.not_not]

@[simp]
theorem misfits_nil : Misfits Fits [] = ∅ :=
  misfits_eq_empty_iff.2 fun i entry found => by simp at found

theorem zero_mem_misfits_cons : 0 ∈ Misfits Fits (entry :: rest) ↔ ¬ Fits [] entry := by
  constructor
  · rintro ⟨found, same, misfit⟩
    cases same
    exact misfit
  · intro misfit
    exact ⟨entry, rfl, misfit⟩

/-- Behind the first entry the indices are those of the rest, where it has to fit as well. -/
theorem succ_mem_misfits_cons :
    i + 1 ∈ Misfits Fits (entry :: rest) ↔
      i ∈ Misfits (fun earlier => Fits (entry :: earlier)) rest :=
  Iff.rfl

theorem misfits_cons_eq_empty_iff :
    Misfits Fits (entry :: rest) = ∅ ↔
      Fits [] entry ∧ Misfits (fun earlier => Fits (entry :: earlier)) rest = ∅ := by
  simp only [misfits_eq_empty_iff]
  constructor
  · intro fit
    exact ⟨fit 0 entry rfl, fun i later found => fit (i + 1) later found⟩
  · rintro ⟨first, fit⟩ (_ | i) later found
    · cases found
      exact first
    · exact fit i later found

theorem isLeast_zero_misfits_cons (h : ¬ Fits [] entry) :
    IsLeast (Misfits Fits (entry :: rest)) 0 :=
  ⟨zero_mem_misfits_cons.2 h, fun _ _ => Nat.zero_le _⟩

theorem isLeast_succ_misfits_cons (first : Fits [] entry)
    (least : IsLeast (Misfits (fun earlier => Fits (entry :: earlier)) rest) i) :
    IsLeast (Misfits Fits (entry :: rest)) (i + 1) := by
  refine ⟨succ_mem_misfits_cons.2 least.1, ?_⟩
  rintro (_ | j) misfit
  · exact absurd first (zero_mem_misfits_cons.1 misfit)
  · exact Nat.succ_le_succ (least.2 (succ_mem_misfits_cons.1 misfit))

/-- Lists that begin alike have the same entries there. -/
theorem getElem?_eq_of_take_eq {others : List (String × κ)} {n : Nat}
    (same : others.take n = entries.take n) (h : i < n) : others[i]? = entries[i]? := by
  rw [← List.getElem?_take_of_lt h, same, List.getElem?_take_of_lt h]

/-- Whether an index is a misfit is settled by the entries up to it. -/
theorem mem_misfits_congr {others : List (String × κ)} {n : Nat}
    (same : others.take n = entries.take n) (h : i < n) :
    i ∈ Misfits Fits others ↔ i ∈ Misfits Fits entries := by
  have before : others.take i = entries.take i := by
    rw [← min_eq_left h.le, ← List.take_take, same, List.take_take]
  simp only [Misfits, Set.mem_ofPred_eq, getElem?_eq_of_take_eq same h, before]

/-- The first misfit stays the first, whatever follows it. -/
theorem isLeast_misfits_congr {others : List (String × κ)}
    (same : others.take (i + 1) = entries.take (i + 1)) (least : IsLeast (Misfits Fits entries) i) :
    IsLeast (Misfits Fits others) i := by
  refine ⟨(mem_misfits_congr same i.lt_succ_self).2 least.1, fun j misfit => ?_⟩
  by_contra smaller
  have h : j < i := Nat.lt_of_not_le smaller
  exact smaller (least.2 ((mem_misfits_congr same (Nat.lt_succ_of_lt h)).1 misfit))

/-- A condition on the entry alone makes misfits apart from the others. -/
theorem misfits_and_eq_empty_iff {P : String × κ → Prop} :
    Misfits (fun earlier entry => P entry ∧ Fits earlier entry) entries = ∅ ↔
      (∀ entry ∈ entries, P entry) ∧ Misfits Fits entries = ∅ := by
  simp only [misfits_eq_empty_iff]
  constructor
  · intro fit
    refine ⟨fun entry listed => ?_, fun i entry found => (fit i entry found).2⟩
    obtain ⟨i, found⟩ := List.mem_iff_getElem?.1 listed
    exact (fit i entry found).1
  · rintro ⟨all, fit⟩ i entry found
    exact ⟨all entry (List.mem_of_getElem? found), fit i entry found⟩

theorem isNew_nil : IsNew [] entry :=
  List.not_mem_nil

/-- A spelling that is not new occurs at a smaller index. -/
theorem not_isNew_take_iff :
    ¬ IsNew (entries.take i) entry ↔ ∃ j < i, ∃ c, entries[j]? = some (entry.1, c) := by
  rw [IsNew, Classical.not_not, List.mem_map]
  constructor
  · rintro ⟨⟨s, c⟩, listed, rfl⟩
    obtain ⟨j, found⟩ := List.mem_iff_getElem?.1 listed
    rw [List.getElem?_take, Option.ite_none_right_eq_some] at found
    exact ⟨j, found.1, c, found.2⟩
  · rintro ⟨j, before, c, found⟩
    have listed : (entry.1, c) ∈ entries.take i :=
      List.mem_of_getElem? ((List.getElem?_take_of_lt before).trans found)
    exact ⟨_, listed, rfl⟩

/-- To be new behind `entry` is to differ from it and to be new in what comes between. -/
theorem isNew_cons (earlier : List (String × κ)) :
    IsNew (entry :: earlier) = fun later => later.1 ≠ entry.1 ∧ IsNew earlier later := by
  funext later
  rw [IsNew, List.map_cons, List.mem_cons, not_or]
  rfl

/-- Where only new spellings fit, a list is without misfits if it repeats none. -/
theorem misfits_isNew_eq_empty_iff :
    Misfits IsNew entries = ∅ ↔ (entries.map Prod.fst).Nodup := by
  induction entries with
  | nil => simp
  | cons entry rest ih =>
      have behind : (∀ later ∈ rest, later.1 ≠ entry.1) ↔ entry.1 ∉ rest.map Prod.fst := by
        simp only [List.mem_map, not_exists, not_and, ne_eq]
      simp only [misfits_cons_eq_empty_iff, isNew_nil, isNew_cons, misfits_and_eq_empty_iff, ih,
        behind, true_and, List.map_cons, List.nodup_cons]

end Misfits

section Run

variable {step : Table κ → String × κ → Except ε (Table κ)}
variable {Fits : List (String × κ) → String × κ → Prop} {cause : String × κ → ε}

/-- **A run of building**, from any table: either every entry fits and the run appends them all, or
the first misfit ends it.  By induction on the list, where the entries that a later one has to fit
grow by the one just appended. -/
theorem Appends.foldlM_cases (h : Appends step Fits cause) (t : Table κ)
    (entries : List (String × κ)) :
    (Misfits (fun earlier => Fits (t.entries ++ earlier)) entries = ∅ ∧
        ∃ u, entries.foldlM step t = .ok u ∧ u.entries = t.entries ++ entries) ∨
      ∃ i entry, IsLeast (Misfits (fun earlier => Fits (t.entries ++ earlier)) entries) i ∧
        entries[i]? = some entry ∧ entries.foldlM step t = .error (cause entry) := by
  induction entries generalizing t with
  | nil => exact .inl ⟨misfits_nil, t, rfl, (List.append_nil _).symm⟩
  | cons entry rest ih =>
      rw [List.foldlM_cons]
      by_cases fits : Fits t.entries entry
      · obtain ⟨v, taken, grown⟩ := h.ok fits
        have first : Fits (t.entries ++ []) entry := by rwa [List.append_nil]
        have later := ih v
        simp only [grown, List.append_assoc, List.singleton_append] at later
        rw [taken]
        show _ ∨ ∃ i e, _ ∧ _ ∧ rest.foldlM step v = .error (cause e)
        rcases later with ⟨none, u, run, all⟩ | ⟨i, misfit, least, found, run⟩
        · exact .inl ⟨misfits_cons_eq_empty_iff.2 ⟨first, none⟩, u, run, all⟩
        · exact .inr ⟨i + 1, misfit, isLeast_succ_misfits_cons first least, found, run⟩
      · have first : ¬ Fits (t.entries ++ []) entry := by rwa [List.append_nil]
        rw [h.error fits]
        exact .inr ⟨0, entry, isLeast_zero_misfits_cons first, rfl, rfl⟩

variable {entries : List (String × κ)}

/-- A list is built into the table of its entries, if it has no misfit. -/
theorem Appends.foldlM_eq_ok_iff (h : Appends step Fits cause) {u : Table κ} :
    entries.foldlM step empty = .ok u ↔ Misfits Fits entries = ∅ ∧ u.entries = entries := by
  rcases h.foldlM_cases empty entries with ⟨none, v, run, all⟩ | ⟨i, entry, least, -, run⟩
  · rw [run, Except.ok.injEq]
    constructor
    · rintro rfl
      exact ⟨none, all⟩
    · rintro ⟨-, same⟩
      exact eq_of_entries (all.trans same.symm)
  · rw [run]
    constructor
    · intro ok
      cases ok
    · rintro ⟨none, -⟩
      exact absurd none least.nonempty.ne_empty

/-- A list is refused for the cause of its first misfit, whatever follows it. -/
theorem Appends.foldlM_eq_error_iff (h : Appends step Fits cause) {e : ε} :
    entries.foldlM step empty = .error e ↔
      ∃ i entry, IsLeast (Misfits Fits entries) i ∧ entries[i]? = some entry ∧
        cause entry = e := by
  rcases h.foldlM_cases empty entries with ⟨none, v, run, -⟩ | ⟨i, entry, least, found, run⟩
  · rw [run]
    constructor
    · intro error
      cases error
    · rintro ⟨i, entry, least, -⟩
      exact absurd none least.nonempty.ne_empty
  · rw [run, Except.error.injEq]
    constructor
    · intro same
      exact ⟨i, entry, least, found, same⟩
    · rintro ⟨j, other, first, at_j, same⟩
      obtain rfl := first.unique least
      rw [found, Option.some.injEq] at at_j
      rw [at_j, same]

end Run

end Lexicon.Keyword.Table
