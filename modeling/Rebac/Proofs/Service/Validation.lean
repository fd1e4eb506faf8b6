import Rebac.Proofs.Rule.Form
import Rebac.Service.Rpc

namespace Rebac.Service

open Rebac.Message Rebac.Rule

/-!
# What is reported of an invalid request

A request is checked field by field in the order in which its fields are declared, and so is every part
of it; the first thing that is wrong is reported.

* `Rpc.Valid` — what a valid request holds.
* `Rpc.form` — what may be wrong with each field of a request; `clean_request_iff` says that a request
  of which nothing is wrong is valid.
* `reports_request` — the rules of a request report the first fault of its form.
* `first_tuples_iff`, `first_readFilter_iff`, `first_deleteFilter_iff` — what is right where the first
  fault is within a relationship of a write, or within a filter.
* `first_fault_reported` — **the first broken rule is reported**.
-/

/-! ### Valid requests -/

/-- What a valid request holds. -/
def Rpc.Valid : (r : Rpc) → r.Request → Prop
  | check, m =>
    NameKind.tenantId.accepts m.tenantId = true
      ∧ (∃ d, m.metadata = some d ∧ 3 ≤ d.depth.toInt)
      ∧ (∃ e, m.entity = some e ∧ ValidEntity e)
      ∧ NameKind.identifier.accepts m.permission = true
      ∧ ∃ u, m.subject = some u ∧ ValidSubject u
  | lookupEntity, m =>
    NameKind.tenantId.accepts m.tenantId = true
      ∧ (∃ d, m.metadata = some d ∧ 3 ≤ d.depth.toInt)
      ∧ NameKind.identifier.accepts m.entityType = true
      ∧ NameKind.identifier.accepts m.permission = true
      ∧ (∃ u, m.subject = some u ∧ ValidSubject u)
      ∧ m.pageSize.toNat ≤ 100
  | writeSchema, m =>
    NameKind.tenantId.accepts m.tenantId = true
      ∧ ∃ c ∈ m.schema.toList, Text.isBlank c = false
  | readSchema, m =>
    NameKind.tenantId.accepts m.tenantId = true ∧ ∃ d, m.metadata = some d
  | writeData, m =>
    NameKind.tenantId.accepts m.tenantId = true
      ∧ (∃ d, m.metadata = some d)
      ∧ m.tuples.length ≤ 100
      ∧ ∀ t ∈ m.tuples, WellFormed t
  | readRelationships, m =>
    NameKind.tenantId.accepts m.tenantId = true
      ∧ (∃ d, m.metadata = some d)
      ∧ (∃ f, m.filter = some f ∧ ValidFilter f)
      ∧ m.pageSize.toNat ≤ 100
  | deleteData, m =>
    NameKind.tenantId.accepts m.tenantId = true
      ∧ ∃ f, m.tupleFilter = some f ∧ ValidFilter f
  | createTenant, m =>
    NameKind.tenantId.accepts m.id = true ∧ 1 ≤ m.name.length ∧ m.name.length ≤ 64
  | deleteTenant, m => NameKind.tenantId.accepts m.id = true
  | listTenants, m => m.pageSize.toNat ≤ 100
  | watch, m => NameKind.tenantId.accepts m.tenantId = true

/-! ### What may be wrong with a request -/

/-- The metadata of a check ask for some depth. -/
def checkMetadataForm (d : CheckMetadata) : Form CheckMetadata where
  fields := [("schema_version", free), ("snap_token", free),
    ("depth", broken (3 ≤ d.depth.toInt) .tooShallow)]
  declared := rfl

/-- The metadata of a look-up ask for some depth. -/
def lookupMetadataForm (d : LookupMetadata) : Form LookupMetadata where
  fields := [("schema_version", free), ("snap_token", free),
    ("depth", broken (3 ≤ d.depth.toInt) .tooShallow)]
  declared := rfl

@[simp] theorem clean_checkMetadata_iff {d : CheckMetadata} :
    (checkMetadataForm d).faults.Clean ↔ 3 ≤ d.depth.toInt := by
  simp [checkMetadataForm, clean_form_iff]

@[simp] theorem clean_lookupMetadata_iff {d : LookupMetadata} :
    (lookupMetadataForm d).faults.Clean ↔ 3 ≤ d.depth.toInt := by
  simp [lookupMetadataForm, clean_form_iff]

/-- What may be wrong with each field of a request. -/
def Rpc.form : (r : Rpc) → (m : r.Request) → Form r.Request
  | check, m => {
      fields := [
        ("tenant_id", unnamed .tenantId m.tenantId),
        ("metadata", ofRequired m.metadata fun d => (checkMetadataForm d).faults),
        ("entity", ofRequired m.entity fun e => (entityForm e).faults),
        ("permission", unnamed .identifier m.permission),
        ("subject", ofRequired m.subject fun u => (subjectForm u).faults)]
      declared := rfl }
  | lookupEntity, m => {
      fields := [
        ("tenant_id", unnamed .tenantId m.tenantId),
        ("metadata", ofRequired m.metadata fun d => (lookupMetadataForm d).faults),
        ("entity_type", unnamed .identifier m.entityType),
        ("permission", unnamed .identifier m.permission),
        ("subject", ofRequired m.subject fun u => (subjectForm u).faults),
        ("page_size", broken (m.pageSize.toNat ≤ 100) .pageTooLarge),
        ("continuous_token", free)]
      declared := rfl }
  | writeSchema, m => {
      fields := [
        ("tenant_id", unnamed .tenantId m.tenantId),
        ("schema", broken (!Text.isBlankText m.schema) .blank)]
      declared := rfl }
  | readSchema, m => {
      fields := [
        ("tenant_id", unnamed .tenantId m.tenantId),
        ("metadata", ofRequired m.metadata fun _ => free)]
      declared := rfl }
  | writeData, m => {
      fields := [
        ("tenant_id", unnamed .tenantId m.tenantId),
        ("metadata", ofRequired m.metadata fun _ => free),
        ("tuples", either (broken (m.tuples.length ≤ 100) .tooManyTuples)
          (ofItems (fun t => (tupleForm t).faults) m.tuples))]
      declared := rfl }
  | readRelationships, m => {
      fields := [
        ("tenant_id", unnamed .tenantId m.tenantId),
        ("metadata", ofRequired m.metadata fun _ => free),
        ("filter", ofRequired m.filter fun f => (filterForm f).faults),
        ("page_size", broken (m.pageSize.toNat ≤ 100) .pageTooLarge),
        ("continuous_token", free)]
      declared := rfl }
  | deleteData, m => {
      fields := [
        ("tenant_id", unnamed .tenantId m.tenantId),
        ("tuple_filter", ofRequired m.tupleFilter fun f => (filterForm f).faults)]
      declared := rfl }
  | createTenant, m => {
      fields := [
        ("id", unnamed .tenantId m.id),
        ("name", broken (1 ≤ m.name.length && m.name.length ≤ 64) .badLength)]
      declared := rfl }
  | deleteTenant, m => {
      fields := [("id", unnamed .tenantId m.id)]
      declared := rfl }
  | listTenants, m => {
      fields := [
        ("page_size", broken (m.pageSize.toNat ≤ 100) .pageTooLarge),
        ("continuous_token", free)]
      declared := rfl }
  | watch, m => {
      fields := [("tenant_id", unnamed .tenantId m.tenantId), ("snap_token", free)]
      declared := rfl }

/-- **A request of which nothing is wrong is valid.** -/
theorem clean_request_iff (r : Rpc) (m : r.Request) : (r.form m).faults.Clean ↔ r.Valid m := by
  rw [clean_form_iff]
  cases r <;> simp [Rpc.form, Rpc.Valid, Text.isBlankText]

/-- **The rules of a request report its first fault.** -/
theorem reports_request (r : Rpc) (m : r.Request) :
    Reports Place.path (Ruled.rules m) (r.form m).faults := by
  -- The lemmas of `Reports` follow the table of fields, one for each field or rule in the declared order.
  cases r with
  | check =>
    simp only [Ruled.rules, List.cons_append, List.append_assoc]
    exact .fieldRule rfl (.field
      (.required rfl fun _ => .fieldFree (.fieldFree (.fieldRule rfl .noFields)))
      (.field (.required rfl (reports_entity _))
        (.fieldRule rfl (.lastField (.required rfl (reports_subject _))))))
  | lookupEntity =>
    simp only [Ruled.rules, List.cons_append, List.append_assoc, List.nil_append]
    exact .fieldRule rfl (.field
      (.required rfl fun _ => .fieldFree (.fieldFree (.fieldRule rfl .noFields)))
      (.fieldRule rfl (.fieldRule rfl (.field (.required rfl (reports_subject _))
        (.fieldRule rfl (.fieldFree .noFields))))))
  | writeSchema => exact .fieldRule rfl (.fieldRule rfl .noFields)
  | readSchema => exact .fieldRule rfl (.fieldPresent rfl .noFields)
  | writeData =>
    simp only [Ruled.rules, List.cons_append, List.nil_append]
    exact .fieldRule rfl (.fieldPresent rfl (.lastField
      (.own rfl (.items (fun _ _ => reports_tuple _ _) _))))
  | readRelationships =>
    simp only [Ruled.rules, List.cons_append, List.nil_append]
    exact .fieldRule rfl (.fieldPresent rfl (.field (.required rfl (reports_filter _))
      (.fieldRule rfl (.fieldFree .noFields))))
  | deleteData => exact .fieldRule rfl (.lastField (.required rfl (reports_filter _)))
  | createTenant => exact .fieldRule rfl (.fieldRule rfl .noFields)
  | deleteTenant => exact .fieldRule rfl .noFields
  | listTenants => exact .fieldRule rfl (.fieldFree .noFields)
  | watch => exact .fieldRule rfl (.fieldFree .noFields)

/-! ### The first fault of a request -/

variable {step : Step} {below : Place} {reason : Reason}

/-- **The relationships of a write.** The first fault is in one of them just if it is the first that is
    not well-formed, and all else is right. -/
theorem first_tuples_iff {m : DataWriteRequest} {i : Nat} :
    First (Rpc.writeData.form m).faults (.field 2 "tuples" :: .item i :: below) reason
      ↔ NameKind.tenantId.accepts m.tenantId = true ∧ (∃ d, m.metadata = some d)
        ∧ m.tuples.length ≤ 100
        ∧ ∃ t, FirstAmiss WellFormed m.tuples i t ∧ First (tupleForm t).faults below reason := by
  have htuples := fun t => @clean_tuple_iff t
  rw [first_form_iff]
  simp [Rpc.form, first_either_iff, first_amiss_iff htuples, and_assoc]

/-- **The filter of a reading.** The first fault is within it just if it is there, and what is checked
    before is right. -/
theorem first_readFilter_iff {m : RelationshipReadRequest} :
    First (Rpc.readRelationships.form m).faults (.field 2 "filter" :: step :: below) reason
      ↔ NameKind.tenantId.accepts m.tenantId = true ∧ (∃ d, m.metadata = some d)
        ∧ ∃ f, m.filter = some f ∧ First (filterForm f).faults (step :: below) reason := by
  rw [first_form_iff]
  simp [Rpc.form, first_ofRequired_iff, and_assoc]

/-- **The filter of a removal.** The first fault is within it just if it is there, and what is checked
    before is right. -/
theorem first_deleteFilter_iff {m : DataDeleteRequest} :
    First (Rpc.deleteData.form m).faults (.field 1 "tuple_filter" :: step :: below) reason
      ↔ NameKind.tenantId.accepts m.tenantId = true
        ∧ ∃ f, m.tupleFilter = some f ∧ First (filterForm f).faults (step :: below) reason := by
  rw [first_form_iff]
  simp [Rpc.form, first_ofRequired_iff]

/-- **The first broken rule is reported.** A request is accepted just if it is valid. Otherwise the first
    fault in it is reported, under the text of its place: a part comes before what is in it, fields come
    in the order in which they are declared, items in the order of their list.

    Where that place is in a list of relationships or of names, its item is the first bad one, and what
    is checked before the list is right. -/
theorem first_fault_reported :
    (∀ (r : Rpc) (m : r.Request),
      (violation? m = none ↔ r.Valid m)
        ∧ ∀ v, violation? m = some v ↔
            ∃ place, First (r.form m).faults place v.reason ∧ v.field = Place.path place)
    ∧ (∀ (m : DataWriteRequest) (i : Nat) (below : Place) (reason : Reason),
        First (Rpc.writeData.form m).faults (.field 2 "tuples" :: .item i :: below) reason
          ↔ NameKind.tenantId.accepts m.tenantId = true ∧ (∃ d, m.metadata = some d)
            ∧ m.tuples.length ≤ 100
            ∧ ∃ t, FirstAmiss WellFormed m.tuples i t
              ∧ First (tupleForm t).faults below reason)
    ∧ (∀ (m : RelationshipReadRequest) (step : Step) (below : Place) (reason : Reason),
        First (Rpc.readRelationships.form m).faults (.field 2 "filter" :: step :: below) reason
          ↔ NameKind.tenantId.accepts m.tenantId = true ∧ (∃ d, m.metadata = some d)
            ∧ ∃ f, m.filter = some f ∧ First (filterForm f).faults (step :: below) reason)
    ∧ (∀ (m : DataDeleteRequest) (step : Step) (below : Place) (reason : Reason),
        First (Rpc.deleteData.form m).faults (.field 1 "tuple_filter" :: step :: below) reason
          ↔ NameKind.tenantId.accepts m.tenantId = true
            ∧ ∃ f, m.tupleFilter = some f ∧ First (filterForm f).faults (step :: below) reason)
    ∧ ∀ (f : TupleFilter) (i : Nat) (below : Place) (reason : Reason),
        (First (filterForm f).faults (.field 0 "entity" :: .field 1 "ids" :: .item i :: below) reason
          ↔ ∃ e, f.entity = some e ∧ NameKind.identifier.accepts e.type = true ∧ below = []
            ∧ ∃ id, FirstAmiss (fun id => NameKind.entityId.accepts id = true) e.ids i id
              ∧ reason = .notNamed id .entityId)
        ∧ (First (filterForm f).faults (.field 2 "subject" :: .field 1 "ids" :: .item i :: below)
              reason
          ↔ ValidFilter { f with subject := none }
            ∧ ∃ u, f.subject = some u ∧ (u.type = "" ∨ NameKind.identifier.accepts u.type = true)
              ∧ below = []
              ∧ ∃ id, FirstAmiss (fun id => NameKind.entityId.accepts id = true) u.ids i id
                ∧ reason = .notNamed id .entityId) := by
  refine ⟨fun r m => ⟨?_, fun v => ?_⟩, fun _ _ _ _ => first_tuples_iff,
    fun _ _ _ _ => first_readFilter_iff, fun _ _ _ _ => first_deleteFilter_iff,
    fun _ _ _ _ => ⟨first_entityIds_iff, first_subjectIds_iff⟩⟩
  · exact (reports_request r m).none_iff.trans (clean_request_iff r m)
  · exact (reports_request r m).some_iff

/-- Two relationships of three lack their subject. -/
example :
    let t : Tuple := ⟨some ⟨"document", "1"⟩, "view", some ⟨"user", "alice", ""⟩⟩
    let m : DataWriteRequest := ⟨"t1", some {}, [t, { t with subject := none }, {}]⟩
    violation? m = some ⟨"tuples[1].subject", .required⟩ := by
  decide

end Rebac.Service
