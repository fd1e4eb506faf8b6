import Rebac.Status
import Rebac.Table

namespace Rebac.Server

/-!
# Health of the services

A server tells of each of its services whether it is served, and under the empty name the same of
itself.

* `Health.check` is the status of a service.
* `Health.drain` is the health of a server that is being stopped.
-/

/-- Whether a service is served. -/
inductive ServingStatus where
  | unknown
  | serving
  | notServing
  | serviceUnknown
  deriving DecidableEq, Inhabited

namespace ServingStatus

/-- All statuses in the order of their numbers. -/
def all : List ServingStatus := [unknown, serving, notServing, serviceUnknown]

/-- The number of a status. -/
def number (s : ServingStatus) : Nat :=
  all.idxOf s

/-- The name of a status. -/
def name : ServingStatus → String
  | unknown => "UNKNOWN"
  | serving => "SERVING"
  | notServing => "NOT_SERVING"
  | serviceUnknown => "SERVICE_UNKNOWN"

/-- The status of that name. -/
def ofName? (s : String) : Option ServingStatus :=
  all.find? fun status => status.name = s

end ServingStatus

/-- The statuses of the services of a server. -/
abbrev Health := Table ServingStatus

namespace Health

/-- The name under which a server tells of itself. -/
def wholeServer : String := ""

/-- The health of a server with these services, all of them served. -/
def ofServices (services : List String) : Health :=
  (wholeServer :: services).foldl (fun h name => h.set name .serving) .empty

/-- The status of a service. -/
def check (h : Health) (service : String) : Except Status ServingStatus :=
  match h.get? service with
  | some status => .ok status
  | none => .error ⟨.notFound, "service not registered"⟩

/-- The health of the server once it is being stopped. -/
def drain (h : Health) : Health :=
  h.entries.foldl (fun h e => h.set e.1 .notServing) h

end Health

end Rebac.Server
