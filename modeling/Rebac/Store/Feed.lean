import Rebac.Status
import Rebac.Message.Watch

namespace Rebac.Store

open Rebac.Message

/-!
# Change feeds

The change sets of all tenants go through one log. A watcher remembers how much of the log there was
when it last looked, and receives what has come since: the change sets of its own tenant. Only the
last `bufferSize` change sets of the log can still be read; a watcher that fell further behind is
told how many it missed.

* `Log` is everything published, `Log.last` is the end of it.
* `Watcher.poll` is what a watcher receives, and the watcher afterwards.
-/

/-- How many change sets can still be read. -/
def bufferSize : Nat := 1024

/-- Everything that was published, the latest first. -/
structure Log where
  newestFirst : List (String × DataChanges)

namespace Log

/-- The log before anything is published. -/
def empty : Log := ⟨[]⟩

/-- How many change sets were published. -/
def size (l : Log) : Nat :=
  l.newestFirst.length

/-- The log after a change set of a tenant; one without changes is not published. -/
def publish (l : Log) (tenant : String) (changes : DataChanges) : Log :=
  if changes.dataChanges.isEmpty then l else ⟨(tenant, changes) :: l.newestFirst⟩

/-- The last `n` change sets of the log in the order in which they were published. -/
def last (l : Log) (n : Nat) : List (String × DataChanges) :=
  (l.newestFirst.take n).reverse

end Log

/-- One who follows the changes of a tenant, and the size of the log when it last looked. -/
structure Watcher where
  tenant : String
  seen : Nat

namespace Watcher

/-- A watcher that starts at the end of the log. -/
def subscribe (tenant : String) (l : Log) : Watcher :=
  ⟨tenant, l.size⟩

/-- The change sets of the watcher's tenant. -/
def own (w : Watcher) (sets : List (String × DataChanges)) : List DataChanges :=
  (sets.filter fun s => s.1 = w.tenant).map (·.2)

/-- What the watcher receives: the change sets of its tenant that it has not seen, after a notice of
    how many change sets were dropped if it fell behind. -/
def poll (w : Watcher) (l : Log) : List (Except ServiceError DataChanges) × Watcher :=
  let unseen := l.size - w.seen
  let sets := (w.own (l.last (min unseen bufferSize))).map .ok
  let notice := if bufferSize < unseen then [.error (.lagged (unseen - bufferSize))] else []
  (notice ++ sets, { w with seen := l.size })

end Watcher

end Rebac.Store
