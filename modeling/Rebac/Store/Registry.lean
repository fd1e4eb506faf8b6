import Rebac.Message.Tenancy

namespace Rebac.Store

open Rebac.Message

/-!
# The registry of tenants

The registered tenants in strictly ascending order of their ids.
-/

/-- Tenants in strictly ascending order of their ids. -/
def Ascending (ts : List Tenant) : Prop :=
  ts.Pairwise fun a b => a.id < b.id

/-- Puts a tenant into its place. -/
def insertTenant (t : Tenant) : List Tenant → List Tenant
  | [] => [t]
  | u :: rest => if t.id < u.id then t :: u :: rest else u :: insertTenant t rest

/-- Putting a tenant into a list adds this one and no other. -/
theorem mem_insertTenant {t x : Tenant} {ts : List Tenant} :
    x ∈ insertTenant t ts ↔ x = t ∨ x ∈ ts := by
  induction ts with
  | nil => simp [insertTenant]
  | cons u rest ih =>
    unfold insertTenant
    split <;> simp [ih, or_left_comm]

/-- Tenants stay in the order of their ids when another one is put between them. -/
theorem ascending_insertTenant {t : Tenant} {ts : List Tenant} (h : Ascending ts)
    (new : ∀ u ∈ ts, u.id ≠ t.id) : Ascending (insertTenant t ts) := by
  induction ts with
  | nil => simp [insertTenant, Ascending]
  | cons u rest ih =>
    have hu : ∀ v ∈ rest, u.id < v.id := (List.pairwise_cons.1 h).1
    unfold insertTenant
    split
    · next lt =>
      refine List.pairwise_cons.2 ⟨?_, h⟩
      intro v hv
      rcases List.mem_cons.1 hv with rfl | hv
      · exact lt
      · exact String.lt_trans lt (hu v hv)
    · next ge =>
      have ne : u.id ≠ t.id := new u (by simp)
      have lt : u.id < t.id := by
        rcases Decidable.em (u.id < t.id) with lt | nlt
        · exact lt
        · exact absurd (String.le_antisymm (String.not_lt.1 ge) (String.not_lt.1 nlt)) ne
      refine List.pairwise_cons.2 ⟨?_, ih (List.pairwise_cons.1 h).2 fun v hv => new v (by simp [hv])⟩
      intro v hv
      rcases mem_insertTenant.1 hv with rfl | hv
      · exact lt
      · exact hu v hv

/-- The registered tenants. -/
structure Registry where
  tenants : List Tenant
  ascending : Ascending tenants

namespace Registry

/-- The tenant of that id. -/
def find? (r : Registry) (id : String) : Option Tenant :=
  r.tenants.find? fun t => t.id = id

/-- The registry with one more tenant; a tenant whose id is taken is not added. -/
def insert (r : Registry) (t : Tenant) : Registry :=
  if h : ∀ u ∈ r.tenants, u.id ≠ t.id then ⟨insertTenant t r.tenants, ascending_insertTenant r.ascending h⟩
  else r

/-- The registry without the tenant of that id. -/
def erase (r : Registry) (id : String) : Registry :=
  ⟨r.tenants.filter fun t => t.id ≠ id, r.ascending.filter _⟩

/-- The number of tenants. -/
def size (r : Registry) : Nat :=
  r.tenants.length

/-- The registry of a single tenant. -/
def single (t : Tenant) : Registry :=
  ⟨[t], by simp [Ascending]⟩

end Registry

end Rebac.Store
