import Rebac.Rule.Request

namespace Rebac.Rule

open Rebac.Message

/-!
# Valid messages

A message is valid if all of its rules hold.

* `AllHold` — all rules of a list hold, part by part: `allHold_append`, `allHold_required`,
  `allHold_namedIfGiven`.
* `allHold_entityRules`, `allHold_subjectRules` — a well-formed entity, a well-formed subject.
* `WellFormed`, `allHold_tupleRules` — a well-formed relationship.
* `valid_check_iff`, `valid_write_iff`, `valid_writeSchema_iff`, `valid_createTenant_iff`,
  `valid_deleteTenant_iff`, `valid_read_iff`, `valid_delete_iff` — what a valid request holds.
-/

variable {α : Type}

/-- All rules of a list hold. -/
def AllHold (rules : List Rule) : Prop :=
  ∀ rule ∈ rules, rule.holds = true

/-- Nothing is reported exactly if all rules of the message hold. -/
theorem violation?_eq_none_iff [Ruled α] {a : α} :
    violation? a = none ↔ AllHold (Ruled.rules a) :=
  firstBroken_eq_none_iff

/-! ### Lists of rules -/

@[simp] theorem allHold_nil : AllHold [] := by
  simp [AllHold]

@[simp] theorem allHold_cons {rule : Rule} {rest : List Rule} :
    AllHold (rule :: rest) ↔ rule.holds = true ∧ AllHold rest :=
  List.forall_mem_cons

@[simp] theorem allHold_append {rules rules' : List Rule} :
    AllHold (rules ++ rules') ↔ AllHold rules ∧ AllHold rules' :=
  List.forall_mem_append

@[simp] theorem named_holds {kind : NameKind} {field value : String} :
    (named kind field value).holds = kind.accepts value := rfl

@[simp] theorem deepEnough_holds {field : String} {depth : Int32} :
    (deepEnough field depth).holds = true ↔ minDepth ≤ depth.toInt :=
  decide_eq_true_iff

/-- A part that must be there is there and keeps its own rules. -/
@[simp] theorem allHold_required {field : String} {value : Option α} {rules : α → List Rule} :
    AllHold (required field value rules) ↔ ∃ a, value = some a ∧ AllHold (rules a) := by
  cases value <;> simp [required, present]

/-- A name that may be empty is empty or a name. -/
@[simp] theorem allHold_namedIfGiven {kind : NameKind} {field value : String} :
    AllHold (namedIfGiven kind field value) ↔ value = "" ∨ kind.accepts value = true := by
  unfold namedIfGiven
  split
  · next h => exact iff_of_true allHold_nil (.inl (String.isEmpty_iff.mp h))
  · next h =>
    have hne : value ≠ "" := fun hvalue => h (String.isEmpty_iff.mpr hvalue)
    rw [or_iff_right hne]
    simp

/-! ### Parts of messages -/

/-- The rules for an entity hold exactly if its type is an identifier and its id an id of entities.
    -/
theorem allHold_entityRules {field : String} {e : Entity} :
    AllHold (entityRules field e)
      ↔ NameKind.identifier.accepts e.type = true ∧ NameKind.entityId.accepts e.id = true := by
  simp [entityRules]

/-- The rules for a subject hold exactly if its type, its id and its relation, if it has one, are of
    their kinds. -/
theorem allHold_subjectRules {field : String} {u : Subject} :
    AllHold (subjectRules field u)
      ↔ NameKind.identifier.accepts u.type = true ∧ NameKind.entityId.accepts u.id = true
        ∧ (u.relation = "" ∨ NameKind.identifier.accepts u.relation = true) := by
  simp [subjectRules]

/-- The rules of the items of a list hold if those of every item do, whatever its path. -/
theorem allHold_indexed {field : String} {rules : String → α → List Rule} {kept : α → Prop}
    (h : ∀ path a, AllHold (rules path a) ↔ kept a) {items : List α} :
    AllHold (indexed field rules items) ↔ ∀ a ∈ items, kept a := by
  have hitems : AllHold (indexed field rules items) ↔ ∀ p ∈ items.zipIdx, kept p.1 := by
    simp only [AllHold, indexed, List.forall_mem_flatMap]
    exact forall₂_congr fun p _ => h _ p.1
  rw [hitems]
  constructor
  · intro hkept a ha
    obtain ⟨i, hi, rfl⟩ := List.mem_iff_getElem.mp ha
    exact hkept (items[i], i) (List.mk_mem_zipIdx_iff_getElem?.mpr (List.getElem?_eq_getElem hi))
  · rintro hkept ⟨a, i⟩ hp
    exact hkept a (List.fst_mem_of_mem_zipIdx hp)

/-- The rules for a list of ids hold exactly if each of them is an id of entities. -/
theorem allHold_idsRules {field : String} {ids : List String} :
    AllHold (idsRules field ids) ↔ ∀ id ∈ ids, NameKind.entityId.accepts id = true :=
  allHold_indexed fun _ _ => by simp

/-- A relationship that keeps its rules, whatever the path under which they are reported. -/
structure WellFormed (t : Tuple) : Prop where
  entity : ∃ e, t.entity = some e ∧ NameKind.identifier.accepts e.type = true
    ∧ NameKind.entityId.accepts e.id = true
  relation : NameKind.identifier.accepts t.relation = true
  subject : ∃ u, t.subject = some u ∧ NameKind.identifier.accepts u.type = true
    ∧ NameKind.entityId.accepts u.id = true
    ∧ (u.relation = "" ∨ NameKind.identifier.accepts u.relation = true)

/-- The rules for a relationship hold exactly if it is well formed. -/
theorem allHold_tupleRules {field : String} {t : Tuple} :
    AllHold (tupleRules field t) ↔ WellFormed t := by
  simp only [tupleRules, allHold_append, allHold_cons, allHold_required, allHold_entityRules,
    allHold_subjectRules, named_holds]
  exact ⟨fun ⟨he, hr, hu⟩ => ⟨he, hr, hu⟩, fun ⟨he, hr, hu⟩ => ⟨he, hr, hu⟩⟩

/-- An identifier has characters. -/
theorem ne_empty_of_identifier {name : String} (h : NameKind.identifier.accepts name = true) :
    name ≠ "" := by
  rintro rfl
  exact absurd h (by decide)

/-! ### Requests -/

/-- **A valid check request** holds a tenant, metadata with a depth, an entity, a permission and a
    subject. -/
theorem valid_check_iff {r : CheckRequest} :
    violation? r = none
      ↔ NameKind.tenantId.accepts r.tenantId = true
        ∧ (∃ d, r.metadata = some d ∧ minDepth ≤ d.depth.toInt)
        ∧ (∃ e, r.entity = some e ∧ AllHold (entityRules "entity" e))
        ∧ NameKind.identifier.accepts r.permission = true
        ∧ ∃ u, r.subject = some u ∧ AllHold (subjectRules "subject" u) := by
  rw [violation?_eq_none_iff]
  simp [Ruled.rules]

/-- **A valid write** names a tenant and carries metadata and at most a hundred well-formed
    relationships. -/
theorem valid_write_iff {r : DataWriteRequest} :
    violation? r = none
      ↔ NameKind.tenantId.accepts r.tenantId = true ∧ r.metadata.isSome = true
        ∧ r.tuples.length ≤ maxWriteTuples ∧ ∀ t ∈ r.tuples, WellFormed t := by
  rw [violation?_eq_none_iff]
  have hrules : ∀ path t, AllHold (tupleRules path t) ↔ WellFormed t :=
    fun _ _ => allHold_tupleRules
  simp [Ruled.rules, present, allHold_indexed hrules]

/-- **A valid schema** comes with a tenant and is not blank. -/
theorem valid_writeSchema_iff {r : SchemaWriteRequest} :
    violation? r = none
      ↔ NameKind.tenantId.accepts r.tenantId = true ∧ Text.isBlankText r.schema = false := by
  rw [violation?_eq_none_iff]
  simp [Ruled.rules]

/-- **A valid registration** has an id and a name that is neither empty nor long. -/
theorem valid_createTenant_iff {r : TenantCreateRequest} :
    violation? r = none
      ↔ NameKind.tenantId.accepts r.id = true ∧ 1 ≤ r.name.length ∧ r.name.length ≤ 64 := by
  rw [violation?_eq_none_iff]
  simp [Ruled.rules]

/-- **A valid removal of a tenant** has an id. -/
theorem valid_deleteTenant_iff {r : TenantDeleteRequest} :
    violation? r = none ↔ NameKind.tenantId.accepts r.id = true := by
  rw [violation?_eq_none_iff]
  simp [Ruled.rules]

/-- **A valid reading of relationships** names a tenant, carries metadata and a valid filter, and asks
    for a small page. -/
theorem valid_read_iff {r : RelationshipReadRequest} :
    violation? r = none
      ↔ NameKind.tenantId.accepts r.tenantId = true ∧ r.metadata.isSome = true
        ∧ (∃ f, r.filter = some f ∧ AllHold (filterRules "filter" f))
        ∧ r.pageSize.toNat ≤ maxPageSize := by
  rw [violation?_eq_none_iff]
  simp [Ruled.rules, present, smallPage]

/-- **A valid removal of relationships** names a tenant and carries a valid filter. -/
theorem valid_delete_iff {r : DataDeleteRequest} :
    violation? r = none
      ↔ NameKind.tenantId.accepts r.tenantId = true
        ∧ ∃ f, r.tupleFilter = some f ∧ AllHold (filterRules "tuple_filter" f) := by
  rw [violation?_eq_none_iff]
  simp [Ruled.rules]

end Rebac.Rule
