import Rebac.Proofs.Store.Run

namespace Rebac.Store

open Rebac.Message

/-!
# The registry over a run

What registrations and removals do to the registry of tenants.

* `find?_of_mem` — every tenant is found under its own id.
* `find?_insert`, `find?_erase` — the tenant of an id afterwards.
* `erase_insert`, `erase_of_free` — without the tenant of an id, it does not matter whether that id
  was taken.
* `settle_createTenant_eq`, `registry_perform` — what an operation does to the registry.
* `find?_perform` — **the step law of tenants**.
* `size_after_le` — **no run registers more tenants than allowed**.
-/

variable {r : Registry} {t : Tenant} {ts : List Tenant} {id : String}

/-! ### Tenants in their places -/

/-- A new tenant makes the list longer by one. -/
theorem length_insertTenant (t : Tenant) (ts : List Tenant) :
    (insertTenant t ts).length = ts.length + 1 := by
  induction ts with
  | nil => rfl
  | cons u rest ih =>
    unfold insertTenant
    split
    · rfl
    · rw [List.length_cons, ih, List.length_cons]

/-- Where the tenant does not count, it does not matter that it is there. -/
theorem filter_insertTenant {p : Tenant → Bool} (h : p t = false) :
    (insertTenant t ts).filter p = ts.filter p := by
  induction ts with
  | nil => simp [insertTenant, h]
  | cons u rest ih =>
    unfold insertTenant
    split
    · rw [List.filter_cons_of_neg (by simp [h])]
    · rw [List.filter_cons, List.filter_cons, ih]

/-- In the list with a new tenant, its id is its own, and every other id belongs to whom it did. -/
theorem find?_insertTenant (new : ∀ u ∈ ts, u.id ≠ t.id) (id : String) :
    (insertTenant t ts).find? (fun u => u.id = id)
      = if t.id = id then some t else ts.find? fun u => u.id = id := by
  induction ts with
  | nil => by_cases h : t.id = id <;> simp [insertTenant, h]
  | cons u rest ih =>
    have hrest := ih fun v hv => new v (by simp [hv])
    unfold insertTenant
    split
    · by_cases h : t.id = id <;> simp [h]
    · rw [List.find?_cons, List.find?_cons, hrest]
      -- Two tenants of one id would be one tenant.
      by_cases hu : u.id = id
      · have ht : t.id ≠ id := fun ht => new u (by simp) (hu.trans ht.symm)
        simp [hu, ht]
      · simp [hu]

/-! ### Registries -/

/-- An id is free if no tenant has it. -/
theorem find?_eq_none_iff : r.find? id = none ↔ ∀ u ∈ r.tenants, u.id ≠ id := by
  simp [Registry.find?, List.find?_eq_none]

/-- Every tenant is found under its own id, since no two have the same. -/
theorem find?_of_mem (h : t ∈ r.tenants) : r.find? t.id = some t := by
  obtain ⟨tenants, ascending⟩ := r
  show tenants.find? (fun u => u.id = t.id) = some t
  induction tenants with
  | nil => exact absurd h List.not_mem_nil
  | cons u rest ih =>
    obtain ⟨hfirst, hrest⟩ := List.pairwise_cons.mp ascending
    rcases List.mem_cons.mp h with rfl | hmem
    · simp
    · -- The first one comes strictly before, so its id is another one.
      have hne : u.id ≠ t.id := fun heq => String.lt_irrefl _ (heq ▸ hfirst t hmem)
      rw [List.find?_cons_of_neg (by simpa using hne)]
      exact ih hrest hmem

/-- The registry with a tenant of a free id. -/
theorem tenants_insert (free : r.find? t.id = none) :
    (r.insert t).tenants = insertTenant t r.tenants := by
  rw [Registry.insert, dif_pos (find?_eq_none_iff.mp free)]

/-- Once a tenant is registered, its id is its own, and every other id belongs to whom it did. -/
theorem find?_insert (free : r.find? t.id = none) (id : String) :
    (r.insert t).find? id = if t.id = id then some t else r.find? id := by
  rw [Registry.find?, tenants_insert free, find?_insertTenant (find?_eq_none_iff.mp free)]
  rfl

/-- A new tenant makes the registry larger by one. -/
theorem size_insert (free : r.find? t.id = none) : (r.insert t).size = r.size + 1 := by
  rw [Registry.size, tenants_insert free, length_insertTenant]
  rfl

/-- Once a tenant is taken out, nobody has its id, and every other id belongs to whom it did. -/
theorem find?_erase (r : Registry) (a b : String) :
    (r.erase a).find? b = if a = b then none else r.find? b := by
  split
  · next h =>
    rw [find?_eq_none_iff]
    intro u hu
    have hne := (List.mem_filter.mp hu).2
    simpa [h] using hne
  · next h =>
    unfold Registry.find? Registry.erase
    rw [List.find?_filter]
    congr 1
    funext u
    by_cases hb : u.id = b
    · simp [hb, Ne.symm h]
    · simp [hb]

/-- Without the tenant of an id, it does not matter that it was registered. -/
theorem erase_insert (free : r.find? t.id = none) :
    ((r.insert t).erase t.id).size = (r.erase t.id).size := by
  show ((r.insert t).tenants.filter fun u => u.id ≠ t.id).length
    = (r.tenants.filter fun u => u.id ≠ t.id).length
  rw [tenants_insert free, filter_insertTenant (by simp)]

/-- Nothing is removed with a free id. -/
theorem erase_of_free (free : r.find? id = none) : (r.erase id).size = r.size := by
  show (r.tenants.filter fun u => u.id ≠ id).length = r.tenants.length
  rw [List.filter_eq_self.mpr]
  intro u hu
  simpa using find?_eq_none_iff.mp free u hu

/-- Taking a tenant out does not make the registry larger. -/
theorem size_erase_le (r : Registry) (id : String) : (r.erase id).size ≤ r.size :=
  List.length_filter_le _ _

/-- A tenant that was removed cannot be removed again. -/
theorem erase_erase (r : Registry) (id : String) : ((r.erase id).erase id).size = (r.erase id).size :=
  erase_of_free (by rw [find?_erase, if_pos rfl])

/-! ### Operations -/

/-- The three ways of a registration: the id is taken, the registry is full, or the tenant is
    registered. -/
theorem settle_createTenant_eq (s : Store) (now : Int64) (id name : String) :
    s.settle (s.createTenant now id name)
      = if (s.registry.find? id).isSome then (.error (.tenantExists id), s)
        else if maxTenants ≤ s.registry.size then (.error .tenantLimit, s)
        else (.ok ⟨id, name, now⟩, { s with registry := s.registry.insert ⟨id, name, now⟩ }) := by
  unfold createTenant
  split
  · rfl
  · split
    · rfl
    · rfl

/-- Only registrations and removals of tenants change the registry. -/
theorem registry_perform (s : Store) (op : Operation) :
    (s.perform op).2.registry = match op with
      | .createTenant now id name => (s.settle (s.createTenant now id name)).2.registry
      | .deleteTenant id => (s.settle (s.deleteTenant id)).2.registry
      | _ => s.registry := by
  cases op <;> rfl

/-- The removal of a tenant takes it out of the registry if it is there, and else changes nothing.
    -/
theorem registry_deleteTenant (s : Store) (id : String) :
    (s.settle (s.deleteTenant id)).2.registry
      = if (s.registry.find? id).isSome then s.registry.erase id else s.registry := by
  rw [settle_deleteTenant]
  split <;> rfl

/-- **The step law of tenants.** A tenant is registered if its id is free and there is room, and stays
    registered until it is removed. -/
theorem find?_perform (s : Store) (op : Operation) (tenant : String) :
    (s.perform op).2.registry.find? tenant = match op with
      | .createTenant now id name =>
        if id = tenant ∧ s.registry.find? id = none ∧ s.registry.size < maxTenants then
          some ⟨id, name, now⟩
        else s.registry.find? tenant
      | .deleteTenant id => if id = tenant then none else s.registry.find? tenant
      | _ => s.registry.find? tenant := by
  rw [registry_perform]
  cases op with
  | createTenant now id name =>
    show (s.settle (s.createTenant now id name)).2.registry.find? tenant
      = if id = tenant ∧ s.registry.find? id = none ∧ s.registry.size < maxTenants then
          some ⟨id, name, now⟩
        else s.registry.find? tenant
    rw [settle_createTenant_eq]
    cases hid : s.registry.find? id with
    | some taken => rw [Option.isSome_some, if_pos rfl, if_neg (fun h => nomatch h.2.1)]
    | none =>
      -- The id is free; whether it is taken up depends on the room.
      rw [Option.isSome_none, if_neg Bool.false_ne_true]
      split
      · next hfull => rw [if_neg (by omega)]
      · next hroom =>
        show (s.registry.insert ⟨id, name, now⟩).find? tenant = _
        rw [find?_insert hid]
        simp only [Nat.lt_of_not_le hroom, and_true]
  | deleteTenant id =>
    show (s.settle (s.deleteTenant id)).2.registry.find? tenant
      = if id = tenant then none else s.registry.find? tenant
    -- If the id is not registered, nothing is removed, but nothing is there either.
    rw [registry_deleteTenant]
    split
    · rw [find?_erase]
    · next hfree =>
      split
      · next h => rw [← h]; simpa using hfree
      · rfl
  | _ => rfl

/-- No operation registers more tenants than allowed. -/
theorem size_perform_le {s : Store} (h : s.registry.size ≤ maxTenants) (op : Operation) :
    (s.perform op).2.registry.size ≤ maxTenants := by
  rw [registry_perform]
  cases op with
  | createTenant now id name =>
    show (s.settle (s.createTenant now id name)).2.registry.size ≤ maxTenants
    rw [settle_createTenant_eq]
    split
    · exact h
    · next hfree =>
      split
      · exact h
      · next hroom =>
        have free : s.registry.find? id = none := by simpa using hfree
        show (s.registry.insert ⟨id, name, now⟩).size ≤ maxTenants
        rw [size_insert free]
        omega
  | deleteTenant id =>
    show (s.settle (s.deleteTenant id)).2.registry.size ≤ maxTenants
    rw [registry_deleteTenant]
    split
    · exact Nat.le_trans (size_erase_le s.registry id) h
    · exact h
  | _ => exact h

/-- **No run registers more tenants than allowed.** -/
theorem size_after_le (now : Int64) (ops : List Operation) :
    ((initial now).after ops).registry.size ≤ maxTenants := by
  induction ops using List.reverseRecOn with
  | nil =>
    show 1 ≤ maxTenants
    decide
  | append_singleton ops op ih =>
    rw [after_append, after_singleton]
    exact size_perform_le ih op

end Rebac.Store
