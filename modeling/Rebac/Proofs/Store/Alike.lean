import Rebac.Proofs.Store.Registry

namespace Rebac.Store

open Rebac.Message

/-!
# Stores that a tenant cannot tell apart

Two runs from the same start, one of them without what changes the other tenants, lead to stores that
a tenant cannot tell apart.

* `Renaming` — schemas get their versions from outside, so two runs agree up to a renaming of these.
* `Operation.changesOther`, `alone` — the operations that are left out of the second run, and what is
  left of it; `answers` — a tenant's questions in a run, with their answers.
* `Alike` — two stores that a tenant cannot tell apart; `Alike.other` and `Alike.kept` say that
  operations keep them alike.
* `Alike.answers_eq` — **the answers of the two runs are the same**, up to versions.
-/

/-! ### Renamings -/

/-- A one-to-one change of versions. The empty one stands for the latest, and is kept. -/
structure Renaming where
  rename : String → String
  injective : Function.Injective rename
  rename_empty : rename "" = ""

/-- The schema under its new version. -/
def SchemaVersion.rename (ρ : Renaming) (v : SchemaVersion) : SchemaVersion :=
  ⟨ρ.rename v.version, v.schema⟩

/-- The operation with its versions changed. -/
def Operation.rename (ρ : Renaming) : Operation → Operation
  | writeSchema tenant schema version => writeSchema tenant schema (ρ.rename version)
  | readSchema tenant version => readSchema tenant (ρ.rename version)
  | op => op

/-- The answer of an operation with its versions changed. -/
def Operation.renameAnswer (ρ : Renaming) : (op : Operation) → op.Answer → (op.rename ρ).Answer
  | writeSchema .., version => ρ.rename version
  | headVersion _, answer => answer.map ρ.rename
  | readSchema _ version, answer =>
    match answer with
    | .ok v => .ok (v.rename ρ)
    | .error e => .error (if e = .noVersion version then .noVersion (ρ.rename version) else e)
  | write .., answer | delete .., answer | read .., answer | count _, answer
  | headSnapshot, answer | createTenant .., answer | deleteTenant _, answer
  | listTenants _, answer | watch _, answer | check _, answer | lookup _, answer => answer

/-! ### Two runs -/

/-- Whether an operation changes what belongs to another tenant. -/
def Operation.changesOther (b : String) : Operation → Bool
  | write tenant _ | delete tenant _ | writeSchema tenant _ _ => tenant ≠ b
  | createTenant _ id _ | deleteTenant id => id ≠ b
  | _ => false

/-- Whether an operation is a question of a tenant. -/
def Operation.asks (b : String) : Operation → Bool
  | read tenant _ _ | count tenant | readSchema tenant _ | headVersion tenant => tenant = b
  | check request => request.tenantId = b
  | lookup request => request.tenantId = b
  | _ => false

/-- The operations of a run without those that change what belongs to others, under new versions. -/
def alone (ρ : Renaming) (b : String) (ops : List Operation) : List Operation :=
  (ops.filter fun op => !op.changesOther b).map (·.rename ρ)

/-- The questions of a tenant in a run, with their answers. -/
def answers (s : Store) (b : String) (ops : List Operation) : List (Σ op : Operation, op.Answer) :=
  ((s.history ops).filter fun h => h.2.asks b).map fun h => ⟨h.2, (h.1.perform h.2).1⟩

/-- No registration of a run is refused for want of room. -/
def Roomy (s : Store) (ops : List Operation) : Prop :=
  ∀ h ∈ s.history ops, ∀ now id name, h.2 = .createTenant now id name →
    h.1.createTenant now id name ≠ .error .tenantLimit

variable {ρ : Renaming} {b : String} {s s' : Store} {op : Operation}

/-- Renaming versions does not change which tenant an operation changes. -/
theorem changesOther_rename (ρ : Renaming) (b : String) (op : Operation) :
    (op.rename ρ).changesOther b = op.changesOther b := by
  cases op <;> rfl

/-- Renaming versions does not change which tenant an operation asks about. -/
theorem asks_rename (ρ : Renaming) (b : String) (op : Operation) :
    (op.rename ρ).asks b = op.asks b := by
  cases op <;> rfl

/-- The questions of a tenant change nothing. -/
theorem changesOther_of_asks (h : op.asks b = true) : op.changesOther b = false := by
  cases op with
  | write | delete | writeSchema | createTenant | deleteTenant => exact absurd h Bool.false_ne_true
  | _ => rfl

/-! ### Stores -/

/-- Two stores that a tenant cannot tell apart but by the versions of its schemas. The second has one
    other tenant at most. -/
structure Alike (ρ : Renaming) (b : String) (s s' : Store) : Prop where
  tuples : s'.tuples b = s.tuples b
  schemas : s'.schemasOf.get? b = (s.schemasOf.get? b).map fun vs => vs.map (·.rename ρ)
  tenant : s'.registry.find? b = s.registry.find? b
  few : (s'.registry.erase b).size ≤ 1

/-- A store is like itself at the start, under any renaming. -/
theorem Alike.initial (ρ : Renaming) (b : String) (now : Int64) :
    Alike ρ b (initial now) (initial now) where
  tuples := rfl
  schemas := rfl
  tenant := rfl
  few := size_erase_le _ _

/-- Stores that are alike have the same schemas of the tenant, up to the names of their versions. -/
theorem Alike.schemas_eq (h : Alike ρ b s s') : s'.schemas b = (s.schemas b).map (·.rename ρ) := by
  unfold Store.schemas
  rw [h.schemas]
  cases s.schemasOf.get? b <;> rfl

/-- What changes what belongs to others leaves the tenant alone. -/
theorem Alike.other (h : Alike ρ b s s') (hop : op.changesOther b = true) :
    Alike ρ b (s.perform op).2 s' where
  tuples := by
    rw [h.tuples, tuples_perform]
    -- By the step law: nothing of the tenant is removed, and nothing is added to it.
    have hremoves : ∀ t, op.removes s b t = false := by
      intro t
      cases op with
      | delete tenant filter =>
        have hne : ¬ tenant = b := of_decide_eq_true hop
        simp [Operation.removes, hne]
      | deleteTenant id =>
        have hne : ¬ id = b := of_decide_eq_true hop
        simp [Operation.removes, hne]
      | _ => rfl
    have hcreates : op.creates s b = [] := by
      cases op with
      | write tenant tuples => exact if_neg (of_decide_eq_true hop)
      | _ => rfl
    rw [hcreates, List.append_nil]
    exact (List.filter_eq_self.mpr fun t _ => by rw [hremoves]; rfl).symm
  schemas := by
    rw [h.schemas, schemasOf_perform]
    cases op with
    | writeSchema tenant schema version =>
      dsimp only
      rw [if_neg (of_decide_eq_true hop)]
    | deleteTenant id =>
      dsimp only
      rw [if_neg fun hid => (of_decide_eq_true hop : id ≠ b) hid.1]
    | _ => rfl
  tenant := by
    rw [h.tenant, find?_perform]
    cases op with
    | createTenant now id name =>
      dsimp only
      rw [if_neg fun hid => (of_decide_eq_true hop : id ≠ b) hid.1]
    | deleteTenant id =>
      dsimp only
      rw [if_neg (of_decide_eq_true hop)]
    | _ => rfl
  few := h.few

/-- What is left in registers no other tenant. -/
theorem size_erase_perform (s : Store) (hop : op.changesOther b = false) :
    ((s.perform op).2.registry.erase b).size = (s.registry.erase b).size := by
  rw [registry_perform]
  cases op with
  | createTenant now id name =>
    obtain rfl : id = b := Decidable.of_not_not (of_decide_eq_false hop)
    show ((s.settle (s.createTenant now id name)).2.registry.erase id).size = _
    rw [settle_createTenant_eq]
    split
    · rfl
    · next hfree =>
      split
      · rfl
      · exact erase_insert (t := ⟨id, name, now⟩) (by simpa using hfree)
  | deleteTenant id =>
    obtain rfl : id = b := Decidable.of_not_not (of_decide_eq_false hop)
    show ((s.settle (s.deleteTenant id)).2.registry.erase id).size = _
    rw [registry_deleteTenant]
    split
    · exact erase_erase s.registry id
    · rfl
  | _ => rfl

/-- What is left in the run does the same to what the tenant can see. -/
theorem Alike.kept (h : Alike ρ b s s') (hop : op.changesOther b = false)
    (room : ∀ now name, op = .createTenant now b name → s.registry.find? b = none →
      s.registry.size < maxTenants) :
    Alike ρ b (s.perform op).2 (s'.perform (op.rename ρ)).2 where
  tuples := by
    have hremoves : ∀ t, (op.rename ρ).removes s' b t = op.removes s b t := by
      intro t
      cases op with
      | deleteTenant id =>
        obtain rfl : id = b := Decidable.of_not_not (of_decide_eq_false hop)
        show (decide (id = id) && (s'.registry.find? id).isSome) = _
        rw [h.tenant]
        rfl
      | _ => rfl
    have hcreates : (op.rename ρ).creates s' b = op.creates s b := by
      cases op with
      | write tenant tuples =>
        show (if tenant = b then s'.unstored b tuples else []) = _
        unfold unstored
        rw [h.tuples]
        rfl
      | _ => rfl
    rw [tuples_perform, tuples_perform, h.tuples, hcreates]
    simp only [hremoves]
  schemas := by
    rw [schemasOf_perform, schemasOf_perform]
    cases op with
    | writeSchema tenant schema version =>
      obtain rfl : tenant = b := Decidable.of_not_not (of_decide_eq_false hop)
      show (if tenant = tenant then some (s'.schemas tenant ++ [⟨ρ.rename version, schema⟩]) else _)
        = _
      rw [if_pos rfl, h.schemas_eq]
      dsimp only
      rw [if_pos rfl, Option.map_some, List.map_append]
      rfl
    | deleteTenant id =>
      obtain rfl : id = b := Decidable.of_not_not (of_decide_eq_false hop)
      show (if id = id ∧ (s'.registry.find? id).isSome then none else s'.schemasOf.get? id) = _
      rw [h.tenant, h.schemas]
      dsimp only
      split <;> rfl
    | _ => exact h.schemas
  tenant := by
    rw [find?_perform, find?_perform]
    cases op with
    | createTenant now id name =>
      obtain rfl : id = b := Decidable.of_not_not (of_decide_eq_false hop)
      show (if id = id ∧ s'.registry.find? id = none ∧ s'.registry.size < maxTenants then
        some (⟨id, name, now⟩ : Tenant) else s'.registry.find? id) = _
      rw [h.tenant]
      dsimp only
      by_cases hfree : s.registry.find? id = none
      · -- There is room in both: in the second store there are two tenants at most.
        have hsize : s'.registry.size ≤ 1 := by
          rw [← erase_of_free (h.tenant.trans hfree)]
          exact h.few
        have hroom' : s'.registry.size < maxTenants := Nat.lt_of_le_of_lt hsize (by decide)
        rw [if_pos ⟨rfl, hfree, hroom'⟩, if_pos ⟨rfl, hfree, room now name rfl hfree⟩]
      · rw [if_neg fun hc => hfree hc.2.1, if_neg fun hc => hfree hc.2.1]
    | deleteTenant id =>
      show (if id = b then none else s'.registry.find? b) = _
      rw [h.tenant]
    | _ => exact h.tenant
  few := by
    rw [size_erase_perform s' ((changesOther_rename ρ b op).trans hop)]
    exact h.few

/-! ### Answers -/

/-- That there is no schema is not said as that there is no such version. -/
theorem noSchema_ne_noVersion (tenant version : String) :
    ServiceError.noSchema tenant ≠ .noVersion version := by
  intro h
  have htext := congrArg String.toList (ServiceError.notFound.inj h)
  simp at htext

/-- Stores that are alike show the same relationships of the tenant. -/
theorem Alike.read_eq (h : Alike ρ b s s') (filter : TupleFilter) (page : Page) :
    s'.read b filter page = s.read b filter page := by
  unfold read
  rw [h.tuples]

/-- Stores that are alike answer a check of the tenant alike. -/
theorem Alike.check_eq (h : Alike ρ b s s') {r : CheckRequest} (hr : r.tenantId = b) :
    s'.check r = s.check r := by
  unfold check
  simp only [hr, h.read_eq]

/-- Stores that are alike answer a look-up of the tenant alike. -/
theorem Alike.lookup_eq (h : Alike ρ b s s') {r : LookupRequest} (hr : r.tenantId = b) :
    s'.lookup r = s.lookup r := by
  unfold lookup
  simp only [hr, h.read_eq]

/-- A schema is found under its new version. -/
theorem find?_rename (ρ : Renaming) (version : String) (vs : List SchemaVersion) :
    (vs.map (·.rename ρ)).find? (fun v => v.version = ρ.rename version)
      = (vs.find? fun v => v.version = version).map (·.rename ρ) := by
  rw [List.find?_map]
  congr 2
  funext v
  exact decide_eq_decide.mpr ρ.injective.eq_iff

/-- Stores that are alike have the same schema under a version and its new name. -/
theorem Alike.readSchema_eq (h : Alike ρ b s s') (version : String) :
    s'.readSchema b (ρ.rename version)
      = Operation.renameAnswer ρ (.readSchema b version) (s.readSchema b version) := by
  -- The latest schema is asked for in both stores or in neither.
  have hempty : (ρ.rename version).isEmpty = version.isEmpty := by
    rw [Bool.eq_iff_iff, String.isEmpty_iff, String.isEmpty_iff]
    constructor
    · intro hρ
      exact ρ.injective (hρ.trans ρ.rename_empty.symm)
    · intro hv
      rw [hv, ρ.rename_empty]
  unfold readSchema
  rw [h.schemas]
  cases s.schemasOf.get? b with
  | none =>
    symm
    exact congrArg Except.error (if_neg (noSchema_ne_noVersion b version))
  | some vs =>
    dsimp only [Option.map_some]
    rw [hempty, List.getLast?_map, find?_rename, ← apply_ite (Option.map _)]
    cases (if version.isEmpty then vs.getLast? else vs.find? fun v => v.version = version) with
    | none =>
      symm
      exact congrArg Except.error (if_pos rfl)
    | some v => rfl

/-- Stores that are alike have the same newest schema, up to the name of its version. -/
theorem Alike.headVersion_eq (h : Alike ρ b s s') :
    s'.headVersion b = (s.headVersion b).map ρ.rename := by
  unfold headVersion
  rw [h.schemas_eq, List.getLast?_map]
  cases (s.schemas b).getLast? <;> rfl

/-- The questions of the tenant have the same answers, up to versions. -/
theorem Alike.answer_eq (h : Alike ρ b s s') (hop : op.asks b = true) :
    (s'.perform (op.rename ρ)).1 = op.renameAnswer ρ (s.perform op).1 := by
  cases op with
  | read tenant filter page =>
    obtain rfl : tenant = b := of_decide_eq_true hop
    exact h.read_eq filter page
  | count tenant =>
    obtain rfl : tenant = b := of_decide_eq_true hop
    exact congrArg List.length h.tuples
  | readSchema tenant version =>
    obtain rfl : tenant = b := of_decide_eq_true hop
    exact h.readSchema_eq version
  | headVersion tenant =>
    obtain rfl : tenant = b := of_decide_eq_true hop
    exact h.headVersion_eq
  | check request => exact h.check_eq (of_decide_eq_true hop)
  | lookup request => exact h.lookup_eq (of_decide_eq_true hop)
  | _ => exact absurd hop Bool.false_ne_true

/-- The answers about a tenant begin with that of the first operation, if it asks about the tenant.
    -/
theorem answers_cons (s : Store) (b : String) (op : Operation) (ops : List Operation) :
    s.answers b (op :: ops)
      = (if op.asks b then [⟨op, (s.perform op).1⟩] else [])
          ++ (s.perform op).2.answers b ops := by
  unfold answers
  show List.map _ (List.filter _ ((s, op) :: (s.perform op).2.history ops)) = _
  rw [List.filter_cons]
  split <;> rfl

/-- An operation on another tenant is left out of what the tenant does alone. -/
theorem alone_of_other (hop : op.changesOther b = true) (ops : List Operation) :
    alone ρ b (op :: ops) = alone ρ b ops := by
  rw [alone, List.filter_cons_of_neg (by simp [hop])]
  rfl

/-- An operation that changes no other tenant is what the tenant does alone, with its versions
    renamed. -/
theorem alone_of_kept (hop : op.changesOther b = false) (ops : List Operation) :
    alone ρ b (op :: ops) = op.rename ρ :: alone ρ b ops := by
  rw [alone, List.filter_cons_of_pos (by simp [hop]), List.map_cons]
  rfl

/-- In a run that never fills the registry there is always room. -/
theorem roomy_of_size {ops : List Operation}
    (h : ∀ past ∈ s.history ops, past.1.registry.size < maxTenants) : s.Roomy ops := by
  intro past hpast now id name _ hlimit
  have hroom := h past hpast
  unfold createTenant at hlimit
  split at hlimit
  · have hsame : ServiceError.tenantExists id = .tenantLimit := Except.error.inj hlimit
    exact absurd hsame (by simp [ServiceError.tenantExists, ServiceError.tenantLimit])
  · rw [if_neg (by omega)] at hlimit
    cases hlimit

/-- There is room for a run exactly if there is for its first part, and for the rest after it. -/
theorem roomy_append {x y : List Operation} :
    s.Roomy (x ++ y) ↔ s.Roomy x ∧ (s.after x).Roomy y := by
  unfold Roomy
  rw [history_append]
  simp only [List.mem_append, or_imp, forall_and]

/-- There is room for the rest of a run. -/
theorem Roomy.tail {ops : List Operation} (h : s.Roomy (op :: ops)) :
    (s.perform op).2.Roomy ops := by
  have hsplit : s.Roomy ([op] ++ ops) := h
  exact (roomy_append.mp hsplit).2

/-- A registration that is not refused for want of room has room. -/
theorem Roomy.room {ops : List Operation} (h : s.Roomy (op :: ops)) (now : Int64) (name : String)
    (hop : op = .createTenant now b name) (free : s.registry.find? b = none) :
    s.registry.size < maxTenants := by
  have hroom := h (s, op) List.mem_cons_self now b name hop
  by_contra hfull
  apply hroom
  show s.createTenant now b name = _
  rw [createTenant, free, if_neg (by simp), if_pos (Nat.le_of_not_lt hfull)]

/-- **The answers of a run are the same**, up to versions. -/
theorem Alike.answers_eq (h : Alike ρ b s s') {ops : List Operation} (room : s.Roomy ops) :
    s'.answers b (alone ρ b ops)
      = (s.answers b ops).map fun a => ⟨a.1.rename ρ, a.1.renameAnswer ρ a.2⟩ := by
  induction ops generalizing s s' with
  | nil => rfl
  | cons op ops ih =>
    rw [answers_cons, List.map_append]
    cases hop : op.changesOther b with
    | true =>
      -- The operation is left out of the second run, and it is no question.
      have hasks : op.asks b = false := by
        cases hasks : op.asks b with
        | false => rfl
        | true =>
          rw [changesOther_of_asks hasks] at hop
          exact absurd hop Bool.false_ne_true
      rw [alone_of_other hop, hasks, ih (h.other hop) room.tail]
      rfl
    | false =>
      rw [alone_of_kept hop, answers_cons, asks_rename, ih (h.kept hop room.room) room.tail]
      congr 1
      cases hasks : op.asks b with
      | false => rfl
      | true =>
        rw [if_pos rfl, if_pos rfl, h.answer_eq hasks]
        rfl

end Rebac.Store
