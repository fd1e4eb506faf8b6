import Rebac.Record.Json
import Rebac.Rule.Request
import Rebac.Service.Evaluator

namespace Rebac.Service

open Rebac.Message

/-!
# The calls of the services

Eleven calls in five services. Ten are answered once, `watch` opens a feed.

* `Rpc.Request` and `Rpc.Response` are the messages of a call.
* `Rpc.handle` is what a call does to the store.
-/

/-- The calls. -/
inductive Rpc where
  | check
  | lookupEntity
  | writeSchema
  | readSchema
  | writeData
  | readRelationships
  | deleteData
  | createTenant
  | deleteTenant
  | listTenants
  | watch
  deriving DecidableEq, Inhabited

namespace Rpc

/-- All calls. -/
def all : List Rpc := [
  check, lookupEntity, writeSchema, readSchema, writeData, readRelationships, deleteData,
  createTenant, deleteTenant, listTenants, watch]

/-- The service that a call belongs to. -/
def service : Rpc → String
  | check | lookupEntity => "base.v1.Permission"
  | writeSchema | readSchema => "base.v1.Schema"
  | writeData | readRelationships | deleteData => "base.v1.Data"
  | createTenant | deleteTenant | listTenants => "base.v1.Tenancy"
  | watch => "base.v1.Watch"

/-- The name of a call within its service. -/
def method : Rpc → String
  | check => "Check"
  | lookupEntity => "LookupEntity"
  | writeSchema | writeData => "Write"
  | readSchema => "Read"
  | readRelationships => "ReadRelationships"
  | deleteData | deleteTenant => "Delete"
  | createTenant => "Create"
  | listTenants => "List"
  | watch => "Watch"

/-- The path under which a call is requested. -/
def path (r : Rpc) : String :=
  s!"/{r.service}/{r.method}"

/-- The call of that path. -/
def ofPath? (path : String) : Option Rpc :=
  all.find? fun r => r.path = path

/-- The message that a call is made with. -/
abbrev Request : Rpc → Type
  | check => CheckRequest
  | lookupEntity => LookupRequest
  | writeSchema => SchemaWriteRequest
  | readSchema => SchemaReadRequest
  | writeData => DataWriteRequest
  | readRelationships => RelationshipReadRequest
  | deleteData => DataDeleteRequest
  | createTenant => TenantCreateRequest
  | deleteTenant => TenantDeleteRequest
  | listTenants => TenantListRequest
  | watch => WatchRequest

/-- What a call answers: a message, or the watcher of a new feed. -/
abbrev Response : Rpc → Type
  | check => CheckResponse
  | lookupEntity => LookupResponse
  | writeSchema => SchemaWriteResponse
  | readSchema => SchemaReadResponse
  | writeData => DataWriteResponse
  | readRelationships => RelationshipReadResponse
  | deleteData => DataDeleteResponse
  | createTenant => TenantCreateResponse
  | deleteTenant => TenantDeleteResponse
  | listTenants => TenantListResponse
  | watch => Store.Watcher

/-- Every request is a record. -/
instance requestRecord : (r : Rpc) → Record r.Request
  | check => inferInstanceAs (Record CheckRequest)
  | lookupEntity => inferInstanceAs (Record LookupRequest)
  | writeSchema => inferInstanceAs (Record SchemaWriteRequest)
  | readSchema => inferInstanceAs (Record SchemaReadRequest)
  | writeData => inferInstanceAs (Record DataWriteRequest)
  | readRelationships => inferInstanceAs (Record RelationshipReadRequest)
  | deleteData => inferInstanceAs (Record DataDeleteRequest)
  | createTenant => inferInstanceAs (Record TenantCreateRequest)
  | deleteTenant => inferInstanceAs (Record TenantDeleteRequest)
  | listTenants => inferInstanceAs (Record TenantListRequest)
  | watch => inferInstanceAs (Record WatchRequest)

/-- Every request has rules. -/
instance requestRules : (r : Rpc) → Rule.Ruled r.Request
  | check => inferInstanceAs (Rule.Ruled CheckRequest)
  | lookupEntity => inferInstanceAs (Rule.Ruled LookupRequest)
  | writeSchema => inferInstanceAs (Rule.Ruled SchemaWriteRequest)
  | readSchema => inferInstanceAs (Rule.Ruled SchemaReadRequest)
  | writeData => inferInstanceAs (Rule.Ruled DataWriteRequest)
  | readRelationships => inferInstanceAs (Rule.Ruled RelationshipReadRequest)
  | deleteData => inferInstanceAs (Rule.Ruled DataDeleteRequest)
  | createTenant => inferInstanceAs (Rule.Ruled TenantCreateRequest)
  | deleteTenant => inferInstanceAs (Rule.Ruled TenantDeleteRequest)
  | listTenants => inferInstanceAs (Rule.Ruled TenantListRequest)
  | watch => inferInstanceAs (Rule.Ruled WatchRequest)

/-- The value of an answer; a feed has none. -/
def responseValue : (r : Rpc) → r.Response → Json.Value
  | check, m => Record.toValue (α := CheckResponse) m
  | lookupEntity, m => Record.toValue (α := LookupResponse) m
  | writeSchema, m => Record.toValue (α := SchemaWriteResponse) m
  | readSchema, m => Record.toValue (α := SchemaReadResponse) m
  | writeData, m => Record.toValue (α := DataWriteResponse) m
  | readRelationships, m => Record.toValue (α := RelationshipReadResponse) m
  | deleteData, m => Record.toValue (α := DataDeleteResponse) m
  | createTenant, m => Record.toValue (α := TenantCreateResponse) m
  | deleteTenant, m => Record.toValue (α := TenantDeleteResponse) m
  | listTenants, m => Record.toValue (α := TenantListResponse) m
  | watch, _ => .null

/-- What a handler is given from outside: the time, and a version for a schema. -/
structure Context where
  now : Int64
  version : String

/-- The outcome of an operation that leaves the store as it is. -/
def reading {α : Type} (s : Store) (outcome : Outcome α) : Outcome α × Store :=
  (outcome, s)

/-- The outcome of an operation that changes the store if it succeeds. -/
def writing {α β : Type} (s : Store) (f : α → β) : Except ServiceError (α × Store) → Outcome β × Store
  | .ok (a, s) => (.answer (f a), s)
  | .error e => (.failure e.status, s)

/-- What a call does to the store. -/
def handle (e : Evaluator) (c : Context) (s : Store) : (r : Rpc) → r.Request → Outcome r.Response × Store
  | check, m => reading s (e.check s m)
  | lookupEntity, m => reading s (e.lookup s m)
  | writeSchema, m =>
    (.answer (⟨c.version⟩ : SchemaWriteResponse), s.writeSchema m.tenantId m.schema c.version)
  | readSchema, m =>
    let version := match m.metadata with
      | some d => d.schemaVersion
      | none => ""
    reading s (.ofExcept ((s.readSchema m.tenantId version).map fun v =>
      (⟨v.schema, v.version⟩ : SchemaReadResponse)))
  | writeData, m =>
    let (token, s) := s.write m.tenantId m.tuples
    (.answer (⟨token⟩ : DataWriteResponse), s)
  | readRelationships, m =>
    reading s (.ofExcept ((s.read m.tenantId (m.filter.getD {}) ⟨m.pageSize, m.continuousToken⟩).map
      fun (tuples, next) => (⟨tuples, next⟩ : RelationshipReadResponse)))
  | deleteData, m =>
    let (token, s) := s.delete m.tenantId (m.tupleFilter.getD {})
    (.answer (⟨token⟩ : DataDeleteResponse), s)
  | createTenant, m =>
    writing s (fun t => (⟨some t⟩ : TenantCreateResponse)) (s.createTenant c.now m.id m.name)
  | deleteTenant, m =>
    writing s (fun t => (⟨some t⟩ : TenantDeleteResponse)) (s.deleteTenant m.id)
  | listTenants, m =>
    reading s (.ofExcept ((s.listTenants ⟨m.pageSize, m.continuousToken⟩).map
      fun (tenants, next) => (⟨tenants, next⟩ : TenantListResponse)))
  | watch, m => reading s (.answer (s.watch m.tenantId))

end Rpc

end Rebac.Service
