import Rebac.Service.Pipeline
import Rebac.Service.Rpc

namespace Rebac.Service

open Rebac.Message

/-!
# The services

Every call goes through the gate to its handler, which works on the store.

* `Backend` is what the services share, `Backend.call` makes a call.
* `Backend.poll` is what a feed delivers; once the drain has started, feeds have ended.
-/

/-- What the services of a process share. -/
structure Backend where
  store : Store
  gate : Gate
  /-- Whether the services are being stopped. -/
  draining : Bool

/-- What a call is given from outside. -/
structure Surroundings where
  moment : Credential.Moment
  context : Rpc.Context

namespace Backend

/-- The services with a new store behind a gate. -/
def start (now : Int64) (gate : Gate) : Backend :=
  ⟨.initial now, gate, false⟩

/-- Makes a call. -/
def call (b : Backend) (e : Evaluator) (around : Surroundings) (metadata : Metadata) (r : Rpc)
    (message : r.Request) : Outcome r.Response × Backend :=
  let (outcome, gate, store) :=
    b.gate.run ⟨Rule.violation? message, metadata, around.moment⟩
      (fun s => Rpc.handle e around.context s r message) b.store
  (outcome, { b with gate := gate, store := store })

/-- Starts to stop the services: feeds end at once. -/
def drain (b : Backend) : Backend :=
  { b with draining := true }

/-- An item of a feed. -/
abbrev Item := Except Status WatchResponse

/-- A received change set as an item of a feed. -/
def itemOf : Except ServiceError DataChanges → Item
  | .ok changes => .ok ⟨some changes⟩
  | .error e => .error e.status

/-- What a feed delivers, and its watcher afterwards. -/
def poll (b : Backend) (w : Store.Watcher) : List Item × Store.Watcher :=
  if b.draining then ([], w)
  else
    let (received, w) := w.poll b.store.log
    (received.map itemOf, w)

end Backend

end Rebac.Service
