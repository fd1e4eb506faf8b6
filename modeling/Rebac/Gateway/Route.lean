import Rebac.Http.Message
import Rebac.Service.Rpc

namespace Rebac.Gateway

open Rebac.Service

/-!
# Routes

A route is a pattern of path segments with the method under which it is requested. A segment of a
pattern is a word or stands for any segment, the id of a tenant; a pattern with a word goes before one
without.

* `routes` are all routes.
* `dispatch` tells where a request goes.
-/

/-- A segment of a pattern. -/
inductive Segment where
  | word (text : String)
  | tenant
  deriving DecidableEq

/-- Where a request goes: to a call, or to the health of the primary server. -/
inductive Target where
  | call (r : Rpc)
  | health
  deriving DecidableEq

/-- The methods of routes. -/
inductive Method where
  | get
  | post
  | delete
  deriving DecidableEq

/-- The methods under which a route is requested, in the order in which they are told to others. -/
def Method.names : Method → List String
  | get => ["GET", "HEAD"]
  | post => ["POST"]
  | delete => ["DELETE"]

/-- A route. -/
structure Route where
  method : Method
  pattern : List Segment
  target : Target
  deriving DecidableEq

/-- The route of a call about one tenant. -/
def tenantRoute (words : List String) (r : Rpc) : Route :=
  ⟨.post, .word "v1" :: .word "tenants" :: .tenant :: words.map .word, .call r⟩

/-- All routes; of two patterns for the same path, the one with a word where the other has none stands
    in front. -/
def routes : List Route := [
  ⟨.post, [.word "v1", .word "tenants", .word "create"], .call .createTenant⟩,
  ⟨.post, [.word "v1", .word "tenants", .word "list"], .call .listTenants⟩,
  ⟨.delete, [.word "v1", .word "tenants", .tenant], .call .deleteTenant⟩,
  tenantRoute ["permissions", "check"] .check,
  tenantRoute ["permissions", "lookup-entity"] .lookupEntity,
  tenantRoute ["schemas", "write"] .writeSchema,
  tenantRoute ["schemas", "read"] .readSchema,
  tenantRoute ["data", "write"] .writeData,
  tenantRoute ["data", "relationships", "read"] .readRelationships,
  tenantRoute ["data", "delete"] .deleteData,
  ⟨.get, [.word "healthz"], .health⟩]

/-- The segments that stand for a tenant, if the path has the pattern; such a segment is not empty. -/
def fill? : List Segment → List String → Option (List String)
  | [], [] => some []
  | .word w :: pattern, s :: path => if w = s then fill? pattern path else none
  | .tenant :: pattern, s :: path =>
    if s.isEmpty then none else (fill? pattern path).map (s :: ·)
  | _, _ => none

/-- The segments of a path. -/
def segmentsOf (path : String) : List String :=
  (Http.partsBetween '/' path).drop 1

/-- Where a request goes. -/
inductive Dispatch where
  | notFound
  | notAllowed (methods : List String)
  | found (target : Target) (tenant : Option String)
  deriving DecidableEq

/-- The route of a path with the segment that stands for the tenant. -/
def routeOf? (path : List String) : Option (Route × Option String) :=
  routes.findSome? fun r => (fill? r.pattern path).map fun segments => (r, segments.head?)

/-- Where a request goes: the path alone decides on the route. -/
def dispatch (method : String) (path : List String) : Dispatch :=
  match routeOf? path with
  | none => .notFound
  | some (r, tenant) =>
    if r.method.names.contains method then .found r.target tenant else .notAllowed r.method.names

end Rebac.Gateway
