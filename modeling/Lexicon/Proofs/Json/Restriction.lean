import Lexicon.Proofs.Json.Containers

/-!
# Readers that know less

Two readers may differ only in what one of them does not know: where the other reads a value, it
reads one too, at the same place, or refuses the text for its shape.  `Reader.Restricts f below
above` says so, with `f` taking the values of the one to those of the other.

A choice between fewer names restricts a choice between more, and every way to make a reader of
readers keeps the relation: one lemma for each, and for the two loops an induction over their turns.
Once the reader that knows less has refused, nothing more is asked of it, so the relation says
nothing about texts that both refuse; what they have in common follows from their languages.

`Simulation` puts both sources together.
-/

namespace Lexicon.Json

variable {α β γ δ σ τ : Type} {s r : List Char} {f : α → β}

/-- The text is refused because of its shape. -/
def Misshapen (outcome : Except Failure α) : Prop :=
  ∃ e, outcome = .error e ∧ e.cause.kind = .misshapen

/-- **One outcome restricts another**: it is the same up to `f`, or the text is refused for its
shape. -/
def Restricts (f : α → β) (below : Except Failure (α × List Char))
    (above : Except Failure (β × List Char)) : Prop :=
  ∀ b r, above = .ok (b, r) → (∃ a, below = .ok (a, r) ∧ f a = b) ∨ Misshapen below

/-- **One reader restricts another** on every text. -/
def Reader.Restricts (f : α → β) (below : Reader α) (above : Reader β) : Prop :=
  ∀ s, Json.Restricts f (below.read s) (above.read s)

/-- The same of what is read between brackets. -/
def Content.Restricts (f : α → β) (below : Content α) (above : Content β) : Prop :=
  ∀ s, Json.Restricts f (below.read s) (above.read s)

/-- **One visitor restricts another**: a member that the other takes is taken, by a reader that
restricts the other's. -/
def Visitor.Restricts (g : σ → τ) (below : Visitor σ) (above : Visitor τ) : Prop :=
  ∀ state key reader', above (g state) key = .ok reader' →
    ∃ reader, below state key = .ok reader ∧ Reader.Restricts g reader reader'

theorem restricts_error {e : Failure} {below : Except Failure (α × List Char)} :
    Restricts f below (.error e) := by
  intro b r read
  cases read

theorem restricts_ok (a : α) (r : List Char) : Restricts f (.ok (a, r)) (.ok (f a, r)) := by
  intro b r read
  cases read
  exact .inl ⟨a, rfl, rfl⟩

theorem Misshapen.restricts {below : Except Failure (α × List Char)}
    {above : Except Failure (β × List Char)} (h : Misshapen below) : Restricts f below above :=
  fun _ _ _ => .inr h

/-- **One step after another**: what is done with the two values has to be related, if the reader
that knows less has one. -/
theorem restricts_andThen {below : Except Failure (α × List Char)}
    {above : Except Failure (β × List Char)} {g : γ → δ}
    {k : α → List Char → Except Failure (γ × List Char)}
    {l : β → List Char → Except Failure (δ × List Char)} :
    (∀ a r, below = .ok (a, r) → Restricts g (k a r) (l (f a) r)) → Restricts f below above →
      Restricts g
        (match below with
          | .error e => .error e
          | .ok (a, r) => k a r)
        (match above with
          | .error e => .error e
          | .ok (b, r) => l b r) := by
  intro next h
  cases read : above with
  | error e => exact restricts_error
  | ok taken =>
      obtain ⟨b, r⟩ := taken
      obtain ⟨a, rfl, rfl⟩ | ⟨e, rfl, shape⟩ := h b r read
      · exact next a r rfl
      · exact Misshapen.restricts ⟨e, rfl, shape⟩

/-- Where the reader that knows less has stopped, what the other goes on to do does not matter. -/
theorem restricts_stopped {e : Failure} {above : Except Failure (β × List Char)} {g : γ → δ}
    {l : β → List Char → Except Failure (δ × List Char)} :
    Restricts f (.error e) above →
      Restricts g (.error e)
        (match above with
          | .error e => .error e
          | .ok (b, r) => l b r) := by
  intro h
  refine restricts_andThen (k := fun _ _ => .error e) ?_ h
  intro a r same
  cases same

/-- A reader that is the same in both worlds restricts itself. -/
theorem Reader.restricts_self (reader : Reader α) : reader.Restricts id reader := by
  intro s a r read
  exact .inl ⟨a, read, rfl⟩

/-- What becomes of the values is related if the values are. -/
theorem Reader.Restricts.map {below : Reader α} {above : Reader β} (h : below.Restricts f above)
    {p : α → γ} {q : β → δ} {g : γ → δ} (square : ∀ a, g (p a) = q (f a)) :
    Reader.Restricts g (below.map p) (above.map q) := by
  intro s
  have related := h s
  unfold Reader.map
  dsimp only
  cases read : above.read s with
  | error e => exact restricts_error
  | ok taken =>
      obtain ⟨b, r⟩ := taken
      obtain ⟨a, same, rfl⟩ | ⟨e, refused, shape⟩ := related b r read
      · simp only [same]
        rw [← square]
        exact restricts_ok (p a) r
      · simp only [refused]
        exact Misshapen.restricts ⟨e, rfl, shape⟩

/-! ## Choices -/

section Choice

variable {fewer : List (String × α)} {more : List (String × β)}

variable (names : ∀ {n a b}, fewer.lookup n = some a → more.lookup n = some b → f a = b)

include names

theorem restricts_pick (s : List Char) : Restricts f (pick fewer s) (pick more s) := by
  unfold pick
  cases readString [] s with
  | error e => exact restricts_error
  | ok taken =>
      obtain ⟨n, r⟩ := taken
      dsimp only
      cases known : more.lookup n with
      | none => exact restricts_error
      | some b =>
          cases here : fewer.lookup n with
          | none => exact Misshapen.restricts ⟨_, rfl, rfl⟩
          | some a =>
              dsimp only
              rw [← names here known]
              exact restricts_ok a r

theorem restricts_pickKey (s : List Char) : Restricts f (pickKey fewer s) (pickKey more s) := by
  unfold pickKey
  cases skipBlank s with
  | nil => exact restricts_error
  | cons c r =>
      dsimp only
      split
      · exact restricts_error
      split
      · refine restricts_andThen (fun a t _ => ?_) (restricts_pick names r)
        -- After the name both do the same, whatever the name stands for.
        cases colon t with
        | error e => exact restricts_error
        | ok t =>
            dsimp only
            cases nothing t with
            | error e => exact restricts_error
            | ok t =>
                dsimp only
                cases skipBlank t with
                | nil => exact restricts_error
                | cons c r =>
                    dsimp only
                    split
                    · exact restricts_ok a r
                    · exact restricts_error
      · exact restricts_error

theorem restricts_choice : (choice fewer).Restricts f (choice more) := by
  intro s
  unfold choice
  dsimp only
  cases skipBlank s with
  | nil => exact restricts_error
  | cons c r =>
      dsimp only
      split
      · exact restricts_pick names r
      split
      · exact restricts_pickKey names r
      · exact restricts_error

end Choice

/-! ## Brackets -/

theorem Content.Restricts.enclosed {below : Content α} {above : Content β}
    (h : below.Restricts f above) (b : Bracket) (s : List Char) :
    Json.Restricts f (b.enclosed below s) (b.enclosed above s) := by
  refine restricts_andThen (fun a t _ => ?_) (h s)
  cases b.finish t with
  | error e => exact restricts_error
  | ok r => exact restricts_ok a r

theorem Reader.Restricts.field {below : Reader α} {above : Reader β} (h : below.Restricts f above)
    (name : String) (fields index : Nat) (s : List Char) :
    Json.Restricts f (field name fields index below s) (field name fields index above s) := by
  unfold Json.field
  cases Bracket.square.next (index == 0) s with
  | error e => exact restricts_error
  | ok next =>
      cases next with
      | none => exact restricts_error
      | some item => exact h _

/-- **The loop over items**, turn by turn. -/
theorem Reader.Restricts.items {below : Reader α} {above : Reader β} (h : below.Restricts f above)
    (done : List α) (s : List Char) :
    Json.Restricts (List.map f) (Json.items below done s) (Json.items above (done.map f) s) := by
  fun_induction Json.items below done s with
  | case1 done s e found =>
      rw [items_eq above]
      simp only [List.isEmpty_map, found]
      exact restricts_error
  | case2 done s found =>
      rw [items_eq above]
      simp only [List.isEmpty_map, found]
      rw [← List.map_reverse]
      exact restricts_ok _ s
  | case3 done s c t found e refused =>
      rw [items_eq above]
      simp only [List.isEmpty_map, found]
      have related : Json.Restricts f (.error e) (above.read (c :: t)) := refused ▸ h (c :: t)
      exact restricts_stopped related
  | case4 done s c t found a u taken _ _ ih =>
      rw [items_eq above]
      simp only [List.isEmpty_map, found]
      have related : Json.Restricts f (.ok (a, u)) (above.read (c :: t)) := taken ▸ h (c :: t)
      refine restricts_andThen (k := fun a u => Json.items below (a :: done) u) ?_ related
      intro a' u' same
      cases same
      exact ih

theorem Reader.Restricts.list {below : Reader α} {above : Reader β} (h : below.Restricts f above) :
    (list below).Restricts (List.map f) (list above) := by
  have loop : Content.Restricts (List.map f) ⟨Json.items below [], length_le_of_items⟩
      ⟨Json.items above [], length_le_of_items⟩ := h.items []
  intro s
  unfold Json.list
  dsimp only
  cases skipBlank s with
  | nil => exact restricts_error
  | cons c r =>
      dsimp only
      split
      · exact loop.enclosed .square r
      · intro bs t read
        exact absurd read mistyped_ne_ok

/-! ## Objects and records -/

/-- Where both visitors take a member, their readers are related. -/
theorem Visitor.Restricts.of_accepted {g : σ → τ} {below : Visitor σ} {above : Visitor τ}
    (h : below.Restricts g above) {state : σ} {key : String} {reader : Reader σ}
    {reader' : Reader τ} (accepted : below state key = .ok reader)
    (accepted' : above (g state) key = .ok reader') : reader.Restricts g reader' := by
  obtain ⟨other, same, related⟩ := h state key reader' accepted'
  rw [accepted] at same
  cases same
  exact related

/-- **The loop over members**, turn by turn. -/
theorem Visitor.Restricts.members {g : σ → τ} {below : Visitor σ} {above : Visitor τ}
    (h : below.Restricts g above) (first : Bool) (state : σ) (s : List Char) :
    Json.Restricts g (members below first state s) (members above first (g state) s) := by
  fun_induction Json.members below first state s with
  | case1 first state s e found =>
      rw [members_eq above]
      simp only [found]
      exact restricts_error
  | case2 first state s found =>
      rw [members_eq above]
      simp only [found]
      exact restricts_ok state s
  | case3 first state s t e unreadable found =>
      rw [members_eq above]
      simp only [found, unreadable, if_true]
      exact restricts_error
  | case4 first state s t name r key cause rejected found =>
      rw [members_eq above]
      simp only [found, key, if_true]
      cases accepted : above (g state) name with
      | error cause => exact restricts_error
      | ok reader' =>
          -- What above takes is taken below.
          obtain ⟨reader, taken, -⟩ := h state name reader' accepted
          rw [rejected] at taken
          cases taken
  | case5 first state s t name r key reader accepted e separated found =>
      rw [members_eq above]
      simp only [found, key, separated, if_true]
      cases above (g state) name with
      | error cause => exact restricts_error
      | ok reader' => exact restricts_error
  | case6 first state s t name r key reader accepted u separated e refused found =>
      rw [members_eq above]
      simp only [found, key, separated, if_true]
      cases accepted' : above (g state) name with
      | error cause => exact restricts_error
      | ok reader' =>
          have related := (h.of_accepted accepted accepted') u
          rw [refused] at related
          exact restricts_stopped related
  | case7 first state s t name r key reader accepted u separated next v taken _ _ _ found _ ih =>
      rw [members_eq above]
      simp only [found, key, separated, if_true]
      cases accepted' : above (g state) name with
      | error cause => exact restricts_error
      | ok reader' =>
          have related := (h.of_accepted accepted accepted') u
          rw [taken] at related
          refine restricts_andThen (k := Json.members below false) ?_ related
          intro next' v' same
          cases same
          exact ih
  | case8 first state s c t found other =>
      rw [members_eq above]
      simp only [found, if_neg other]
      exact restricts_error

theorem restricts_record {array : Content α} {array' : Content β} {object : Content α}
    {object' : Content β} (arrays : array.Restricts f array') (objects : object.Restricts f object')
    (name : String) : (record name array object).Restricts f (record name array' object') := by
  intro s
  unfold record
  dsimp only
  cases skipBlank s with
  | nil => exact restricts_error
  | cons c r =>
      dsimp only
      split
      · exact arrays.enclosed .square r
      split
      · exact objects.enclosed .curly r
      · intro b t read
        exact absurd read mistyped_ne_ok

/-! ## Whole texts -/

/-- What is read as a value above is read as one below, or its shape is refused. -/
theorem Reader.Restricts.decode {below : Reader α} {above : Reader β} (h : below.Restricts f above)
    {text : String} {b : β} (read : Json.decode above text = .ok b) :
    (∃ a, Json.decode below text = .ok a ∧ f a = b) ∨
      ∃ e, Json.decode below text = .error e ∧ e.cause.kind = .misshapen := by
  unfold Json.decode at read ⊢
  dsimp only at read ⊢
  cases taken : above.read text.toList with
  | error e =>
      rw [taken] at read
      cases read
  | ok pair =>
      obtain ⟨b', r⟩ := pair
      obtain ⟨a, same, rfl⟩ | ⟨e, refused, shape⟩ := h text.toList b' r taken
      · rw [taken] at read
        dsimp only at read
        split at read
        · next nothingLeft =>
          cases read
          refine .inl ⟨a, ?_, rfl⟩
          simp only [same, if_pos nothingLeft]
          rfl
        · cases read
      · refine .inr ⟨e.locate text.toList, ?_, shape⟩
        simp only [refused]
        rfl

/-- **Reading with two readers is a simulation**, for every text: `widen` takes the values below to
those above, and `Narrows` says which values above have one below. -/
structure Simulation (below : Reader α) (above : Reader β) (widen : α → β) (Narrows : β → Prop) :
    Prop where
  /-- What is read below is read above, widened. -/
  widened : ∀ text b, Json.decode below text = .ok b → Json.decode above text = .ok (widen b)
  /-- What is read above is read below, if it can be narrowed. -/
  narrowed : ∀ text e, Json.decode above text = .ok e → Narrows e →
    ∃ b, Json.decode below text = .ok b ∧ widen b = e
  /-- Otherwise the text is refused below for its shape. -/
  refused : ∀ text e, Json.decode above text = .ok e → ¬ Narrows e →
    ∃ error, Json.decode below text = .error error ∧ error.cause.kind = .misshapen
  /-- What is refused above is refused below. -/
  failed : ∀ text error, Json.decode above text = .error error →
    ∃ error', Json.decode below text = .error error'

/-- Languages that agree on widened values, and a reader that restricts the other. -/
theorem simulation_of_recognises {below : Reader α} {above : Reader β} {L : Language α}
    {M : Language β} {Narrows : β → Prop} (reads : Recognises below L) (reads' : Recognises above M)
    (agree : ∀ {v a}, M v (f a) ↔ L v a) (restricts : below.Restricts f above)
    (narrows_iff : ∀ {b}, Narrows b ↔ ∃ a, f a = b) : Simulation below above f Narrows := by
  have decode_iff (text : String) (a : α) :
      Json.decode above text = .ok (f a) ↔ Json.decode below text = .ok a := by
    rw [reads.decode_eq_ok_iff, reads'.decode_eq_ok_iff]
    simp only [agree]
  constructor
  · intro text b read
    exact (decode_iff text b).2 read
  · intro text e read narrows
    obtain ⟨b, rfl⟩ := narrows_iff.1 narrows
    exact ⟨b, (decode_iff text b).1 read, rfl⟩
  · intro text e read unknown
    obtain ⟨b, -, same⟩ | refused := restricts.decode read
    · exact absurd (narrows_iff.2 ⟨b, same⟩) unknown
    · exact refused
  · intro text error failed
    -- A value below would be one above.
    cases read : Json.decode below text with
    | error error' => exact ⟨error', rfl⟩
    | ok b =>
        rw [(decode_iff text b).2 read] at failed
        cases failed

end Lexicon.Json
