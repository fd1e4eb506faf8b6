import Rebac.Proofs.Rule.Valid
import Rebac.Proofs.Store.Paging
import Rebac.Proofs.Store.Registry

namespace Rebac.Store

open Rebac.Message Rebac.Rule

/-!
# Well-formed stores

What is stored keeps the rules of the requests that store it, as long as every operation brings only
such data.

* `WellFormed` — a store that holds nothing but well-formed data.
* `Operation.Proper` — an operation that brings nothing else.
* `WellFormed.perform`, `WellFormed.after` — **proper operations keep a store well-formed**.
* `pinpoint` — the filter made from a well-formed relationship: it keeps the rules of filters and
  selects the relationship.
-/

/-- A store that holds nothing but well-formed data. -/
structure WellFormed (s : Store) : Prop where
  /-- Also where all relationships were removed again. -/
  keys : ∀ tenant, (s.tuplesOf.get? tenant).isSome = true → NameKind.tenantId.accepts tenant = true
  tuples : ∀ tenant, ∀ t ∈ s.tuples tenant, Rule.WellFormed t
  schemas : ∀ tenant versions, s.schemasOf.get? tenant = some versions →
    NameKind.tenantId.accepts tenant = true ∧ versions ≠ []
      ∧ ∀ v ∈ versions, Text.isBlankText v.schema = false
  tenants : ∀ id t, s.registry.find? id = some t →
    NameKind.tenantId.accepts id = true ∧ 1 ≤ t.name.length ∧ t.name.length ≤ 64
  size : s.registry.size ≤ maxTenants

/-- An operation that brings nothing but well-formed data. -/
def Operation.Proper : Operation → Prop
  | write tenant tuples =>
    NameKind.tenantId.accepts tenant = true ∧ ∀ t ∈ tuples, Rule.WellFormed t
  | delete tenant _ => NameKind.tenantId.accepts tenant = true
  | writeSchema tenant schema _ =>
    NameKind.tenantId.accepts tenant = true ∧ Text.isBlankText schema = false
  | createTenant _ id name =>
    NameKind.tenantId.accepts id = true ∧ 1 ≤ name.length ∧ name.length ≤ 64
  | _ => True

variable {s : Store} {op : Operation} {tenant : String} {t : Tuple}

/-! ### Steps -/

/-- What a proper operation writes is well-formed. -/
theorem Operation.Proper.written (h : op.Proper) (writes : op.writes tenant t = true) :
    Rule.WellFormed t := by
  cases op with
  | write tenant' tuples =>
    have hwrites : tenant' = tenant ∧ t ∈ tuples := by simpa [Operation.writes] using writes
    exact h.2 t hwrites.2
  | _ => exact absurd writes Bool.false_ne_true

/-- Only where a change is committed does a tenant get relationships of its own, if only none. -/
theorem isSome_commit {tenant' : String} {tuples : List Tuple} {changes : List DataChange}
    (after : ((s.commit tenant' tuples changes).2.tuplesOf.get? tenant).isSome = true) :
    tenant' = tenant ∨ (s.tuplesOf.get? tenant).isSome = true := by
  have hset : (s.commit tenant' tuples changes).2.tuplesOf.get? tenant
      = if tenant' = tenant then some tuples else s.tuplesOf.get? tenant := Table.get?_set ..
  rw [hset] at after
  split at after
  · next htenant => exact .inl htenant
  · exact .inr after

/-- The tenants that have relationships after a proper operation are named well if those before
    were. -/
theorem WellFormed.keys_perform (h : s.WellFormed) (proper : op.Proper)
    (after : ((s.perform op).2.tuplesOf.get? tenant).isSome = true) :
    NameKind.tenantId.accepts tenant = true := by
  -- A new key is the tenant of a write or of a delete, which is named well; other operations give none.
  cases op with
  | write tenant' tuples =>
    rcases isSome_commit after with rfl | hbefore
    · exact proper.1
    · exact h.keys tenant hbefore
  | delete tenant' filter =>
    rcases isSome_commit after with rfl | hbefore
    · exact proper
    · exact h.keys tenant hbefore
  | createTenant now id name =>
    obtain ⟨registry, hsame⟩ := settle_createTenant s now id name
    have hafter : ((s.settle (s.createTenant now id name)).2.tuplesOf.get? tenant).isSome = true :=
      after
    rw [hsame] at hafter
    exact h.keys tenant hafter
  | deleteTenant id =>
    have hafter : ((s.settle (s.deleteTenant id)).2.tuplesOf.get? tenant).isSome = true := after
    rw [settle_deleteTenant] at hafter
    split at hafter
    · have herase : (s.tuplesOf.erase id).get? tenant
          = if id = tenant then none else s.tuplesOf.get? tenant := Table.get?_erase ..
      dsimp only at hafter
      rw [herase] at hafter
      split at hafter
      · exact absurd hafter Bool.false_ne_true
      · exact h.keys tenant hafter
    · exact h.keys tenant hafter
  | _ => exact h.keys tenant after

/-- The versions that a proper operation leaves to a tenant are well-formed if those before were. -/
theorem WellFormed.schemas_perform (h : s.WellFormed) (proper : op.Proper)
    {versions : List SchemaVersion} (after : (s.perform op).2.schemasOf.get? tenant = some versions) :
    NameKind.tenantId.accepts tenant = true ∧ versions ≠ []
      ∧ ∀ v ∈ versions, Text.isBlankText v.schema = false := by
  rw [schemasOf_perform] at after
  cases op with
  | writeSchema tenant' schema version =>
    dsimp only at after
    split at after
    · next htenant =>
      cases after
      refine ⟨htenant ▸ proper.1, by simp, ?_⟩
      intro v hv
      rcases List.mem_append.mp hv with hold | hnew
      · -- A tenant whose versions are listed has an entry.
        cases hversions : s.schemasOf.get? tenant with
        | none => simp [Store.schemas, hversions] at hold
        | some versions' =>
          rw [Store.schemas, hversions] at hold
          exact (h.schemas tenant versions' hversions).2.2 v hold
      · rw [List.mem_singleton.mp hnew]
        exact proper.2
    · exact h.schemas tenant versions after
  | deleteTenant id =>
    dsimp only at after
    split at after
    · cases after
    · exact h.schemas tenant versions after
  | _ => exact h.schemas tenant versions after

/-- The tenants that a proper operation leaves registered are well-formed if those before were. -/
theorem WellFormed.tenants_perform (h : s.WellFormed) (proper : op.Proper) {id : String}
    {found : Tenant} (after : (s.perform op).2.registry.find? id = some found) :
    NameKind.tenantId.accepts id = true ∧ 1 ≤ found.name.length ∧ found.name.length ≤ 64 := by
  rw [find?_perform] at after
  cases op with
  | createTenant now id' name =>
    dsimp only at after
    split at after
    · next hnew =>
      cases after
      exact ⟨hnew.1 ▸ proper.1, proper.2⟩
    · exact h.tenants id found after
  | deleteTenant id' =>
    dsimp only at after
    split at after
    · cases after
    · exact h.tenants id found after
  | _ => exact h.tenants id found after

/-- **A proper operation keeps a store well-formed.** -/
theorem WellFormed.perform (h : s.WellFormed) (proper : op.Proper) : (s.perform op).2.WellFormed where
  keys _ after := h.keys_perform proper after
  tuples tenant t ht := by
    rcases mem_perform.mp ht with hwritten | ⟨hstored, -⟩
    · exact proper.written hwritten
    · exact h.tuples tenant t hstored
  schemas _ _ after := h.schemas_perform proper after
  tenants _ _ after := h.tenants_perform proper after
  size := size_perform_le h.size op

/-! ### Runs -/

/-- What is stored at the start is well formed. -/
theorem wellFormed_initial (now : Int64) : (initial now).WellFormed where
  keys _ h := absurd h Bool.false_ne_true
  tuples _ _ ht := absurd ht List.not_mem_nil
  schemas _ _ h := nomatch h
  tenants id t h := by
    have ht : t = ⟨defaultTenant, "example tenant", now⟩ :=
      List.mem_singleton.mp (List.mem_of_find?_eq_some h)
    have hid : t.id = id := by simpa using List.find?_some h
    subst ht
    exact ⟨hid ▸ (by decide : NameKind.tenantId.accepts defaultTenant = true),
      (by decide : 1 ≤ "example tenant".length), (by decide : "example tenant".length ≤ 64)⟩
  size := show 1 ≤ maxTenants by decide

/-- **Proper operations keep a store well-formed**, however many there are. -/
theorem WellFormed.after (h : s.WellFormed) {ops : List Operation} (proper : ∀ op ∈ ops, op.Proper) :
    (s.after ops).WellFormed := by
  induction ops generalizing s with
  | nil => exact h
  | cons op rest ih =>
    exact ih (h.perform (proper op (by simp))) fun op' h' => proper op' (by simp [h'])

/-- Who has relationships is named well. -/
theorem WellFormed.named (h : s.WellFormed) (ht : t ∈ s.tuples tenant) :
    NameKind.tenantId.accepts tenant = true := by
  refine h.keys tenant ?_
  cases hentry : s.tuplesOf.get? tenant with
  | none =>
    have hnil : s.tuples tenant = [] := by rw [Store.tuples, hentry]; rfl
    exact absurd (hnil ▸ ht) List.not_mem_nil
  | some tuples => rfl

/-! ### A filter for a relationship -/

/-- The filter made from a relationship. -/
def pinpoint (t : Tuple) : TupleFilter :=
  ⟨t.entity.map fun e => ⟨e.type, [e.id]⟩, t.relation, t.subject.map subjectFilter⟩

/-- The filter made from a well-formed relationship keeps the rules of filters. -/
theorem allHold_pinpoint (h : Rule.WellFormed t) (field : String) :
    AllHold (filterRules field (pinpoint t)) := by
  obtain ⟨e, hentity, htype, hid⟩ := h.entity
  obtain ⟨u, hsubject, hutype, huid, hurelation⟩ := h.subject
  rw [filterRules, pinpoint, hentity, hsubject]
  simp [Rule.optional, subjectFilter, allHold_idsRules, htype, hid, h.relation, hutype, huid,
    hurelation]

/-- The filter made from a well-formed relationship selects it. -/
theorem selects_pinpoint (h : Rule.WellFormed t) : selects (pinpoint t) t = true := by
  obtain ⟨e, hentity, -⟩ := h.entity
  obtain ⟨u, hsubject, -⟩ := h.subject
  simp [selects, pinpoint, hentity, hsubject, selectsEntity, selectsSubject, subjectFilter,
    matchesText, matchesAny]

end Rebac.Store
