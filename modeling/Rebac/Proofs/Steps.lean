namespace Rebac

/-!
# Steps that may fail

What it takes for several steps to succeed one after the other, and for one step on every item of a
list.
-/

variable {ε ε' α β : Type}

/-- After a step that succeeds comes the rest, with what the step gave. -/
theorem ok_bind (a : α) (f : α → Except ε β) : (Except.ok a >>= f) = f a :=
  rfl

/-- What comes after a step that may fail succeeds if the step and the rest do. -/
theorem bind_eq_ok_iff {x : Except ε α} {f : α → Except ε β} {b : β} :
    (x >>= f) = .ok b ↔ ∃ a, x = .ok a ∧ f a = .ok b := by
  cases x <;> simp [Bind.bind, Except.bind]

/-- Wording a failure otherwise does not make it a success. -/
theorem mapError_eq_ok_iff {x : Except ε α} {f : ε → ε'} {a : α} :
    x.mapError f = .ok a ↔ x = .ok a := by
  constructor
  · intro h
    cases x with
    | ok b => cases h; rfl
    | error e => cases h
  · rintro rfl
    rfl

/-- A step gives a result if it succeeds. -/
theorem toOption_eq_some_iff {x : Except ε α} {a : α} : x.toOption = some a ↔ x = .ok a := by
  cases x <;> simp [Except.toOption]

/-- A step fails if there is no result of it. -/
theorem exists_error_iff {x : Except ε α} : (∃ e, x = .error e) ↔ ∀ a, x ≠ .ok a := by
  cases x <;> simp

/-- A step that gives each good item its value, and fails on any other, succeeds on a list of good
    items, and gives their values. -/
theorem mapM_eq_ok_iff {step : α → Except ε β} {good : α → Prop} {value : α → β}
    (h : ∀ a b, step a = .ok b ↔ good a ∧ b = value a) {items : List α} {results : List β} :
    items.mapM step = .ok results ↔ (∀ a ∈ items, good a) ∧ results = items.map value := by
  induction items generalizing results with
  | nil =>
    rw [List.mapM_nil, List.map_nil]
    constructor
    · rintro ⟨⟩
      exact ⟨List.forall_mem_nil _, rfl⟩
    · rintro ⟨-, rfl⟩
      rfl
  | cons a rest ih =>
    simp only [List.mapM_cons, bind_eq_ok_iff, h, ih, List.forall_mem_cons, List.map_cons]
    constructor
    · rintro ⟨_, ⟨ha, rfl⟩, _, ⟨hrest, rfl⟩, ⟨⟩⟩
      exact ⟨⟨ha, hrest⟩, rfl⟩
    · rintro ⟨⟨ha, hrest⟩, rfl⟩
      exact ⟨_, ⟨ha, rfl⟩, _, ⟨hrest, rfl⟩, rfl⟩

end Rebac
