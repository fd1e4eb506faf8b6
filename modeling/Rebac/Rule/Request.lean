import Rebac.Rule.Basic
import Rebac.Message.Permission
import Rebac.Message.Schema
import Rebac.Message.Data
import Rebac.Message.Tenancy
import Rebac.Message.Watch

namespace Rebac.Rule

open Rebac.Message

/-!
# The rules of the requests

For each request the list of its rules, in the order in which they are checked.
-/

/-! ### Relationships and filters -/

/-- The rules of an entity. -/
def entityRules (field : String) (e : Entity) : List Rule :=
  [named .identifier s!"{field}.type" e.type, named .entityId s!"{field}.id" e.id]

/-- The rules of a subject; its relation may be empty. -/
def subjectRules (field : String) (s : Subject) : List Rule :=
  [named .identifier s!"{field}.type" s.type, named .entityId s!"{field}.id" s.id]
    ++ namedIfGiven .identifier s!"{field}.relation" s.relation

/-- The rules of a relationship. -/
def tupleRules (field : String) (t : Tuple) : List Rule :=
  required s!"{field}.entity" t.entity (entityRules s!"{field}.entity")
    ++ named .identifier s!"{field}.relation" t.relation
    :: required s!"{field}.subject" t.subject (subjectRules s!"{field}.subject")

/-- The rules of the names in a filter. -/
def idsRules (field : String) (ids : List String) : List Rule :=
  indexed field (fun path id => [named .entityId path id]) ids

/-- The rules of a filter: the kind of entity must be given, all else may be empty. -/
def filterRules (field : String) (f : TupleFilter) : List Rule :=
  required s!"{field}.entity" f.entity (fun e =>
      named .identifier s!"{field}.entity.type" e.type :: idsRules s!"{field}.entity.ids" e.ids)
    ++ namedIfGiven .identifier s!"{field}.relation" f.relation
    ++ optional f.subject (fun s =>
      namedIfGiven .identifier s!"{field}.subject.type" s.type
        ++ idsRules s!"{field}.subject.ids" s.ids
        ++ namedIfGiven .identifier s!"{field}.subject.relation" s.relation)

/-! ### Requests -/

instance : Ruled CheckRequest where
  rules m :=
    named .tenantId "tenant_id" m.tenantId
      :: required "metadata" m.metadata (fun d => [deepEnough "metadata.depth" d.depth])
      ++ required "entity" m.entity (entityRules "entity")
      ++ named .identifier "permission" m.permission
      :: required "subject" m.subject (subjectRules "subject")

instance : Ruled LookupRequest where
  rules m :=
    named .tenantId "tenant_id" m.tenantId
      :: required "metadata" m.metadata (fun d => [deepEnough "metadata.depth" d.depth])
      ++ [named .identifier "entity_type" m.entityType,
        named .identifier "permission" m.permission]
      ++ required "subject" m.subject (subjectRules "subject")
      ++ [smallPage "page_size" m.pageSize]

instance : Ruled SchemaWriteRequest where
  rules m :=
    [named .tenantId "tenant_id" m.tenantId,
      ⟨!Text.isBlankText m.schema, ⟨"schema", .blank⟩⟩]

instance : Ruled SchemaReadRequest where
  rules m := [named .tenantId "tenant_id" m.tenantId, present "metadata" m.metadata]

instance : Ruled DataWriteRequest where
  rules m :=
    [named .tenantId "tenant_id" m.tenantId, present "metadata" m.metadata,
      ⟨m.tuples.length ≤ maxWriteTuples, ⟨"tuples", .tooManyTuples⟩⟩]
      ++ indexed "tuples" tupleRules m.tuples

instance : Ruled RelationshipReadRequest where
  rules m :=
    [named .tenantId "tenant_id" m.tenantId, present "metadata" m.metadata]
      ++ required "filter" m.filter (filterRules "filter")
      ++ [smallPage "page_size" m.pageSize]

instance : Ruled DataDeleteRequest where
  rules m :=
    named .tenantId "tenant_id" m.tenantId
      :: required "tuple_filter" m.tupleFilter (filterRules "tuple_filter")

instance : Ruled TenantCreateRequest where
  rules m :=
    [named .tenantId "id" m.id,
      ⟨1 ≤ m.name.length && m.name.length ≤ 64, ⟨"name", .badLength⟩⟩]

instance : Ruled TenantDeleteRequest where
  rules m := [named .tenantId "id" m.id]

instance : Ruled TenantListRequest where
  rules m := [smallPage "page_size" m.pageSize]

instance : Ruled WatchRequest where
  rules m := [named .tenantId "tenant_id" m.tenantId]

end Rebac.Rule
