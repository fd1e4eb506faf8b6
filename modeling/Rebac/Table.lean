namespace Rebac

/-!
# Tables by name

A table keeps one value for each name that has one. Writing and erasing a name leaves all others as
they are.
-/

/-- A value for each name that has one. -/
structure Table (α : Type) where
  /-- The entries, one for each name. -/
  entries : List (String × α)

namespace Table

variable {α : Type}

/-- The table without entries. -/
def empty : Table α := ⟨[]⟩

/-- The value of a name, if it has one. -/
def get? (t : Table α) (name : String) : Option α :=
  (t.entries.find? fun e => e.1 = name).map (·.2)

/-- The table without an entry for the name. -/
def erase (t : Table α) (name : String) : Table α :=
  ⟨t.entries.filter fun e => e.1 ≠ name⟩

/-- The table with this value for the name. -/
def set (t : Table α) (name : String) (value : α) : Table α :=
  ⟨(name, value) :: (t.erase name).entries⟩

@[simp] theorem get?_empty (name : String) : (empty : Table α).get? name = none := rfl

/-- Once an entry is removed, its name has no value, and every other name the one it had. -/
theorem get?_erase (t : Table α) (a b : String) :
    (t.erase a).get? b = if a = b then none else t.get? b := by
  simp only [get?, erase, List.find?_filter]
  split
  · next h => subst h; simp [List.find?_eq_none]
  · next h =>
    congr 2
    funext e
    by_cases hb : e.1 = b
    · simp [hb, Ne.symm h]
    · simp [hb]

/-- Once an entry is set, its name has the new value, and every other name the one it had. -/
theorem get?_set (t : Table α) (a b : String) (value : α) :
    (t.set a value).get? b = if a = b then some value else t.get? b := by
  by_cases h : a = b
  · simp [set, get?, h]
  · have := get?_erase t a b
    simp only [h, if_false] at this ⊢
    rw [← this]
    simp [set, get?, h]

end Table

end Rebac
