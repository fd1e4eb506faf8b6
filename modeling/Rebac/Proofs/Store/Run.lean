import Mathlib.Data.List.Induction
import Rebac.Proofs.Store.Relationships
import Rebac.Store.Evaluator

namespace Rebac.Store

open Rebac.Message

/-!
# Runs of the store

What can be asked of a store, one operation after the other, and what a single operation does to each
part of it.

* `Operation`, `perform` — the operations of the store and of the evaluator over it.
* `after`, `history` — a run of operations: the store after it, and each operation with the store
  that it met.
* `tuples_perform` — **the step law of relationships**: an operation first removes, then appends.
* `schemasOf_perform` — **the step law of schemas**: an operation appends one, or forgets all.
* `snapshot_perform`, `log_perform` — only writes and deletes count, and publish.
-/

/-! ### Operations -/

/-- What can be asked of a store. The time of a registration and the version of a schema come from
    outside. -/
inductive Operation where
  | write (tenant : String) (tuples : List Tuple)
  | delete (tenant : String) (filter : TupleFilter)
  | read (tenant : String) (filter : TupleFilter) (page : Page)
  | count (tenant : String)
  | headSnapshot
  | writeSchema (tenant schema version : String)
  | readSchema (tenant version : String)
  | headVersion (tenant : String)
  | createTenant (now : Int64) (id name : String)
  | deleteTenant (id : String)
  | listTenants (page : Page)
  | watch (tenant : String)
  | check (request : CheckRequest)
  | lookup (request : LookupRequest)

/-- What an operation answers. -/
abbrev Operation.Answer : Operation → Type
  | write .. | delete .. | headSnapshot | writeSchema .. => String
  | read .. => Except ServiceError (List Tuple × String)
  | count .. => Nat
  | readSchema .. => Except ServiceError SchemaVersion
  | headVersion .. => Except ServiceError String
  | createTenant .. | deleteTenant .. => Except ServiceError Tenant
  | listTenants .. => Except ServiceError (List Tenant × String)
  | watch .. => Watcher
  | check .. => Except ServiceError CheckResponse
  | lookup .. => Except ServiceError LookupResponse

/-- The answer of an operation that changes the store if it succeeds, and the store afterwards. -/
def settle {α : Type} (s : Store) : Except ServiceError (α × Store) → Except ServiceError α × Store
  | .ok (a, s) => (.ok a, s)
  | .error e => (.error e, s)

/-- Performs an operation. -/
def perform (s : Store) : (op : Operation) → op.Answer × Store
  | .write tenant tuples => s.write tenant tuples
  | .delete tenant filter => s.delete tenant filter
  | .read tenant filter page => (s.read tenant filter page, s)
  | .count tenant => (s.count tenant, s)
  | .headSnapshot => (s.headSnapshot, s)
  | .writeSchema tenant schema version => (version, s.writeSchema tenant schema version)
  | .readSchema tenant version => (s.readSchema tenant version, s)
  | .headVersion tenant => (s.headVersion tenant, s)
  | .createTenant now id name => s.settle (s.createTenant now id name)
  | .deleteTenant id => s.settle (s.deleteTenant id)
  | .listTenants page => (s.listTenants page, s)
  | .watch tenant => (s.watch tenant, s)
  | .check request => (s.check request, s)
  | .lookup request => (s.lookup request, s)

/-! ### Runs -/

/-- The store after a run of operations. -/
def after (s : Store) (ops : List Operation) : Store :=
  ops.foldl (fun s op => (s.perform op).2) s

/-- The operations of a run, each with the store that it met. -/
def history (s : Store) : List Operation → List (Store × Operation)
  | [] => []
  | op :: rest => (s, op) :: (s.perform op).2.history rest

@[simp] theorem after_nil (s : Store) : s.after [] = s := rfl

@[simp] theorem after_append (s : Store) (a b : List Operation) :
    s.after (a ++ b) = (s.after a).after b := List.foldl_append

@[simp] theorem after_singleton (s : Store) (op : Operation) :
    s.after [op] = (s.perform op).2 := rfl

/-- The history of a run is that of its first part, and then that of the rest. -/
theorem history_append (s : Store) (a b : List Operation) :
    s.history (a ++ b) = s.history a ++ (s.after a).history b := by
  induction a generalizing s with
  | nil => rfl
  | cons op rest ih =>
    show (s, op) :: (s.perform op).2.history (rest ++ b) = _
    rw [ih]
    rfl

/-! ### What an operation does to the relationships -/

/-- Whether an operation writes a relationship of a tenant, stored already or not. -/
def Operation.writes (tenant : String) (t : Tuple) : Operation → Bool
  | write tenant' tuples => tenant' = tenant && tuples.contains t
  | _ => false

/-- Whether an operation removes a relationship of a tenant if it is stored: by a filter, or with the
    tenant, which then has to be registered. -/
def Operation.removes (s : Store) (tenant : String) (t : Tuple) : Operation → Bool
  | delete tenant' filter => tenant' = tenant && selects filter t
  | deleteTenant id => id = tenant && (s.registry.find? id).isSome
  | _ => false

/-- The relationships that an operation adds to those of a tenant. -/
def Operation.creates (s : Store) (tenant : String) : Operation → List Tuple
  | write tenant' tuples => if tenant' = tenant then s.unstored tenant tuples else []
  | _ => []

/-- Whether an operation takes a new snapshot. -/
def Operation.commits : Operation → Bool
  | write .. | delete .. => true
  | _ => false

/-- What an operation puts into the log. -/
def Operation.publishes (s : Store) : Operation → List (String × DataChanges)
  | write tenant tuples =>
    changeSet tenant (toString (s.snapshot + 1)) .create (s.unstored tenant tuples)
  | delete tenant filter =>
    changeSet tenant (toString (s.snapshot + 1)) .delete
      ((s.tuples tenant).filter (selects filter))
  | _ => []

/-- The store after a registration differs in its registry only. -/
theorem settle_createTenant (s : Store) (now : Int64) (id name : String) :
    ∃ registry, (s.settle (s.createTenant now id name)).2 = { s with registry := registry } := by
  unfold createTenant
  split
  · exact ⟨s.registry, rfl⟩
  · split
    · exact ⟨s.registry, rfl⟩
    · exact ⟨_, rfl⟩

/-- The store after a removal of a tenant: nothing is left of it if it was registered. -/
theorem settle_deleteTenant (s : Store) (id : String) :
    (s.settle (s.deleteTenant id)).2
      = if (s.registry.find? id).isSome then
          { s with
            registry := s.registry.erase id
            tuplesOf := s.tuplesOf.erase id
            schemasOf := s.schemasOf.erase id }
        else s := by
  unfold deleteTenant unregister
  cases s.registry.find? id <;> rfl

/-- The removal of a tenant drops all of its relationships if it is registered, and no others. -/
theorem tuples_deleteTenant (s : Store) (id tenant : String) :
    (s.settle (s.deleteTenant id)).2.tuples tenant
      = if id = tenant ∧ (s.registry.find? id).isSome then [] else s.tuples tenant := by
  rw [settle_deleteTenant]
  by_cases hreg : (s.registry.find? id).isSome
  · rw [if_pos hreg]
    show ((s.tuplesOf.erase id).get? tenant).getD [] = _
    rw [Table.get?_erase]
    by_cases hid : id = tenant
    · rw [if_pos hid, if_pos ⟨hid, hreg⟩]
      rfl
    · rw [if_neg hid, if_neg (fun h => hid h.1)]
      rfl
  · rw [if_neg hreg, if_neg (fun h => hreg h.2)]

/-- **The step law of relationships.** An operation keeps the relationships of a tenant that it does
    not remove, in their order, and appends those that it creates. -/
theorem tuples_perform (s : Store) (op : Operation) (tenant : String) :
    (s.perform op).2.tuples tenant
      = (s.tuples tenant).filter (fun t => !op.removes s tenant t) ++ op.creates s tenant := by
  have hall : ∀ l : List Tuple, l.filter (fun _ => !false) = l :=
    fun l => List.filter_eq_self.mpr (fun _ _ => rfl)
  -- A write creates, a delete removes, the removal of a tenant removes all, and nothing else does
  -- either; what does nothing filters by a test that is always met (`hall`).
  cases op with
  | write tenant' tuples =>
    show (s.write tenant' tuples).2.tuples tenant
      = (s.tuples tenant).filter (fun _ => !false)
          ++ if tenant' = tenant then s.unstored tenant tuples else []
    rw [tuples_write, hall]
    split
    · rfl
    · rw [List.append_nil]
  | delete tenant' filter =>
    show (s.delete tenant' filter).2.tuples tenant
      = (s.tuples tenant).filter (fun t => !(tenant' = tenant && selects filter t)) ++ []
    rw [tuples_delete, List.append_nil]
    by_cases h : tenant' = tenant
    · simp only [h, if_true, decide_true, Bool.true_and]
    · simp only [h, if_false, decide_false, Bool.false_and]
      exact (hall _).symm
  | deleteTenant id =>
    show (s.settle (s.deleteTenant id)).2.tuples tenant
      = (s.tuples tenant).filter (fun _ => !(id = tenant && (s.registry.find? id).isSome)) ++ []
    rw [tuples_deleteTenant, List.append_nil]
    cases hgone : (decide (id = tenant) && (s.registry.find? id).isSome) with
    | true =>
      rw [if_pos (by simpa using hgone)]
      exact (List.filter_eq_nil_iff.mpr (by simp)).symm
    | false =>
      rw [if_neg (by simpa using hgone)]
      exact (hall _).symm
  | createTenant now id name =>
    obtain ⟨registry, hsame⟩ := settle_createTenant s now id name
    show (s.settle (s.createTenant now id name)).2.tuples tenant
      = (s.tuples tenant).filter (fun _ => !false) ++ []
    rw [hsame, hall, List.append_nil]
    rfl
  | _ => exact ((List.append_nil _).trans (hall _)).symm

/-- An operation other than a write or a delete leaves the counter and the log alone. -/
theorem commit_parts_perform (s : Store) {op : Operation} (h : op.commits = false) :
    (s.perform op).2.snapshot = s.snapshot ∧ (s.perform op).2.log = s.log := by
  cases op with
  | write | delete => exact Bool.noConfusion h
  | createTenant now id name =>
    obtain ⟨registry, hsame⟩ := settle_createTenant s now id name
    show (s.settle (s.createTenant now id name)).2.snapshot = _
      ∧ (s.settle (s.createTenant now id name)).2.log = _
    rw [hsame]
    exact ⟨rfl, rfl⟩
  | deleteTenant id =>
    show (s.settle (s.deleteTenant id)).2.snapshot = _ ∧ (s.settle (s.deleteTenant id)).2.log = _
    rw [settle_deleteTenant]
    split <;> exact ⟨rfl, rfl⟩
  | _ => exact ⟨rfl, rfl⟩

/-- **The step law of the counter.** Writes and deletes take a snapshot each. -/
theorem snapshot_perform (s : Store) (op : Operation) :
    (s.perform op).2.snapshot = s.snapshot + if op.commits then 1 else 0 := by
  cases op with
  | write | delete => rfl
  | _ => exact (commit_parts_perform s rfl).1

/-- **The step law of the log.** What an operation publishes comes on top. -/
theorem log_perform (s : Store) (op : Operation) :
    (s.perform op).2.log.newestFirst = op.publishes s ++ s.log.newestFirst := by
  cases op with
  | write tenant tuples => exact log_write s tenant tuples
  | delete tenant filter => exact log_delete s tenant filter
  | _ => exact congrArg Log.newestFirst (commit_parts_perform s rfl).2

/-- **The step law of schemas.** A schema that is written comes behind the others of its tenant, and
    all go with the tenant. -/
theorem schemasOf_perform (s : Store) (op : Operation) (tenant : String) :
    (s.perform op).2.schemasOf.get? tenant = match op with
      | .writeSchema tenant' schema version =>
        if tenant' = tenant then some (s.schemas tenant ++ [⟨version, schema⟩])
        else s.schemasOf.get? tenant
      | .deleteTenant id =>
        if id = tenant ∧ (s.registry.find? id).isSome then none else s.schemasOf.get? tenant
      | _ => s.schemasOf.get? tenant := by
  cases op with
  | writeSchema tenant' schema version =>
    show (s.schemasOf.set tenant' (s.schemas tenant' ++ [⟨version, schema⟩])).get? tenant
      = if tenant' = tenant then some (s.schemas tenant ++ [⟨version, schema⟩])
        else s.schemasOf.get? tenant
    rw [Table.get?_set]
    split
    · next h => rw [h]
    · rfl
  | deleteTenant id =>
    show (s.settle (s.deleteTenant id)).2.schemasOf.get? tenant
      = if id = tenant ∧ (s.registry.find? id).isSome then none else s.schemasOf.get? tenant
    rw [settle_deleteTenant]
    by_cases hreg : (s.registry.find? id).isSome
    · rw [if_pos hreg]
      show (s.schemasOf.erase id).get? tenant = _
      rw [Table.get?_erase]
      simp only [hreg, and_true]
    · rw [if_neg hreg, if_neg (fun h => hreg h.2)]
  | createTenant now id name =>
    obtain ⟨registry, hsame⟩ := settle_createTenant s now id name
    show (s.settle (s.createTenant now id name)).2.schemasOf.get? tenant = s.schemasOf.get? tenant
    rw [hsame]
  | _ => rfl

/-! ### What a run keeps -/

/-- An operation creates what it writes and what is not stored yet. -/
theorem mem_creates {s : Store} {op : Operation} {tenant : String} {t : Tuple} :
    t ∈ op.creates s tenant ↔ op.writes tenant t = true ∧ t ∉ s.tuples tenant := by
  cases op with
  | write tenant' tuples =>
    show (t ∈ if tenant' = tenant then s.unstored tenant tuples else [])
      ↔ (tenant' = tenant && tuples.contains t) = true ∧ t ∉ s.tuples tenant
    by_cases h : tenant' = tenant
    · simp [h, mem_unstored]
    · simp [h]
  | _ => simp [Operation.creates, Operation.writes]

/-- An operation creates nothing twice. -/
theorem nodup_creates (s : Store) (op : Operation) (tenant : String) :
    (op.creates s tenant).Nodup := by
  cases op with
  | write tenant' tuples =>
    show (if tenant' = tenant then s.unstored tenant tuples else []).Nodup
    split
    · exact nodup_unstored s tenant tuples
    · exact List.nodup_nil
  | _ => exact List.nodup_nil

/-- A write removes nothing. -/
theorem removes_of_writes {s : Store} {op : Operation} {tenant : String} {t : Tuple}
    (h : op.writes tenant t = true) : op.removes s tenant t = false := by
  cases op with
  | write => rfl
  | _ => exact absurd h (by simp [Operation.writes])

/-- A relationship is stored after an operation that wrote it, or was stored before an operation that
    did not remove it. -/
theorem mem_perform {s : Store} {op : Operation} {tenant : String} {t : Tuple} :
    t ∈ (s.perform op).2.tuples tenant
      ↔ op.writes tenant t = true ∨ t ∈ s.tuples tenant ∧ op.removes s tenant t = false := by
  rw [tuples_perform, List.mem_append, List.mem_filter, mem_creates, Bool.not_eq_true']
  constructor
  · rintro (hkept | ⟨hwrites, -⟩)
    · exact .inr hkept
    · exact .inl hwrites
  · rintro (hwrites | hkept)
    · by_cases hstored : t ∈ s.tuples tenant
      · exact .inl ⟨hstored, removes_of_writes hwrites⟩
      · exact .inr ⟨hwrites, hstored⟩
    · exact .inl hkept

/-- No operation stores a relationship twice. -/
theorem nodup_perform {s : Store} {tenant : String} (h : (s.tuples tenant).Nodup)
    (op : Operation) : ((s.perform op).2.tuples tenant).Nodup := by
  rw [tuples_perform, List.nodup_append]
  refine ⟨h.filter _, nodup_creates s op tenant, ?_⟩
  -- What is created was not stored before, so it is none of what is kept.
  intro t ht u hu htu
  exact (mem_creates.mp hu).2 (htu ▸ (List.mem_filter.mp ht).1)

@[simp] theorem tuples_initial (now : Int64) (tenant : String) :
    (initial now).tuples tenant = [] := rfl

/-- **No relationship is stored twice**, whatever was done. -/
theorem nodup_after (now : Int64) (ops : List Operation) (tenant : String) :
    (((initial now).after ops).tuples tenant).Nodup := by
  induction ops using List.reverseRecOn with
  | nil => exact List.nodup_nil
  | append_singleton ops op ih =>
    rw [after_append, after_singleton]
    exact nodup_perform ih op

/-- The counter counts the writes and deletes of a run. -/
theorem snapshot_after (now : Int64) (ops : List Operation) :
    ((initial now).after ops).snapshot = ops.countP Operation.commits := by
  induction ops using List.reverseRecOn with
  | nil => rfl
  | append_singleton ops op ih =>
    rw [after_append, after_singleton, snapshot_perform, ih, List.countP_append,
      List.countP_singleton]

end Rebac.Store
