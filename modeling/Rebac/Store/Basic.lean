import Rebac.Store.Page
import Rebac.Store.Selection
import Rebac.Table
import Rebac.Store.Registry
import Rebac.Store.Feed

namespace Rebac

open Rebac.Message Rebac.Store

/-!
# The store

For each tenant the relationships in the order in which they were stored, each once, and the schemas
in the order in which they were written; the registry of tenants; one counter of snapshots and one
log of changes for all tenants. Data may be stored for a tenant that is not registered.

* `write`, `delete` and `read` work on relationships, `writeSchema`, `readSchema` and `headVersion`
  on schemas, `createTenant`, `deleteTenant` and `listTenants` on the registry.
* `unregister`, `dropTuples` and `dropSchemas` are the three steps of `deleteTenant`.
-/

namespace Store

/-- The tenant that every store starts with. -/
def defaultTenant : String := "t1"

/-- How many tenants can be registered. -/
def maxTenants : Nat := 10000

/-- A schema text under its version. -/
structure SchemaVersion where
  version : String
  schema : String
  deriving DecidableEq

end Store

/-- The state of the store. -/
structure Store where
  registry : Store.Registry
  tuplesOf : Table (List Tuple)
  schemasOf : Table (List Store.SchemaVersion)
  /-- The number of writes and deletes so far. -/
  snapshot : Nat
  log : Store.Log

namespace Store

/-- The store at the given time before anything is done. -/
def initial (now : Int64) : Store where
  registry := .single ⟨defaultTenant, "example tenant", now⟩
  tuplesOf := .empty
  schemasOf := .empty
  snapshot := 0
  log := .empty

/-! ### Relationships -/

/-- The relationships of a tenant in stored order. -/
def tuples (s : Store) (tenant : String) : List Tuple :=
  (s.tuplesOf.get? tenant).getD []

/-- The number of relationships of a tenant. -/
def count (s : Store) (tenant : String) : Nat :=
  (s.tuples tenant).length

/-- The token of the latest snapshot. -/
def headSnapshot (s : Store) : String :=
  toString s.snapshot

/-- The relationships of a list that are not stored yet, each once. -/
def fresh (stored : List Tuple) : List Tuple → List Tuple
  | [] => []
  | t :: rest => if t ∈ stored then fresh stored rest else t :: fresh (t :: stored) rest

/-- Sets the relationships of a tenant, and publishes the change under the next snapshot. -/
def commit (s : Store) (tenant : String) (tuples : List Tuple) (changes : List DataChange) :
    String × Store :=
  let token := toString (s.snapshot + 1)
  (token, { s with
    tuplesOf := s.tuplesOf.set tenant tuples
    snapshot := s.snapshot + 1
    log := s.log.publish tenant ⟨token, changes⟩ })

/-- Stores the relationships that are not stored yet, and gives the token of the new snapshot. -/
def write (s : Store) (tenant : String) (tuples : List Tuple) : String × Store :=
  let stored := s.tuples tenant
  let created := fresh stored tuples
  s.commit tenant (stored ++ created) (created.map fun t => ⟨.create, some t⟩)

/-- Removes the relationships that the filter selects, and gives the token of the new snapshot. -/
def delete (s : Store) (tenant : String) (filter : TupleFilter) : String × Store :=
  let stored := s.tuples tenant
  let removed := stored.filter (selects filter)
  s.commit tenant (stored.filter fun t => !selects filter t)
    (removed.map fun t => ⟨.delete, some t⟩)

/-- A page of the relationships that the filter selects. -/
def read (s : Store) (tenant : String) (filter : TupleFilter) (page : Page) :
    Except ServiceError (List Tuple × String) :=
  page.cut ((s.tuples tenant).filter (selects filter))

/-! ### Schemas -/

/-- The schemas of a tenant in the order in which they were written. -/
def schemas (s : Store) (tenant : String) : List SchemaVersion :=
  (s.schemasOf.get? tenant).getD []

/-- Stores a schema under a new version. -/
def writeSchema (s : Store) (tenant schema version : String) : Store :=
  { s with schemasOf := s.schemasOf.set tenant (s.schemas tenant ++ [⟨version, schema⟩]) }

/-- The schema of that version, or the latest one for an empty version. -/
def readSchema (s : Store) (tenant version : String) : Except ServiceError SchemaVersion :=
  match s.schemasOf.get? tenant with
  | none => .error (.noSchema tenant)
  | some versions =>
    let found :=
      if version.isEmpty then versions.getLast? else versions.find? fun v => v.version = version
    match found with
    | some v => .ok v
    | none => .error (.noVersion version)

/-- The latest version of a tenant. -/
def headVersion (s : Store) (tenant : String) : Except ServiceError String :=
  match (s.schemas tenant).getLast? with
  | some v => .ok v.version
  | none => .error (.noSchema tenant)

/-! ### Tenants -/

/-- A page of the registered tenants. -/
def listTenants (s : Store) (page : Page) : Except ServiceError (List Tenant × String) :=
  page.cut s.registry.tenants

/-- Registers a tenant at the given time. -/
def createTenant (s : Store) (now : Int64) (id name : String) :
    Except ServiceError (Tenant × Store) :=
  if (s.registry.find? id).isSome then .error (.tenantExists id)
  else if maxTenants ≤ s.registry.size then .error .tenantLimit
  else
    let tenant : Tenant := ⟨id, name, now⟩
    .ok (tenant, { s with registry := s.registry.insert tenant })

/-- Removes a tenant from the registry. -/
def unregister (s : Store) (id : String) : Except ServiceError (Tenant × Store) :=
  match s.registry.find? id with
  | some tenant => .ok (tenant, { s with registry := s.registry.erase id })
  | none => .error (.noTenant id)

/-- Forgets the relationships of a tenant; nothing is published. -/
def dropTuples (s : Store) (id : String) : Store :=
  { s with tuplesOf := s.tuplesOf.erase id }

/-- Forgets the schemas of a tenant. -/
def dropSchemas (s : Store) (id : String) : Store :=
  { s with schemasOf := s.schemasOf.erase id }

/-- Removes a tenant with everything stored for it. -/
def deleteTenant (s : Store) (id : String) : Except ServiceError (Tenant × Store) := do
  let (tenant, s) ← s.unregister id
  .ok (tenant, (s.dropTuples id).dropSchemas id)

/-! ### Feeds -/

/-- A watcher of the changes of a tenant from now on. -/
def watch (s : Store) (tenant : String) : Watcher :=
  .subscribe tenant s.log

end Store

end Rebac
