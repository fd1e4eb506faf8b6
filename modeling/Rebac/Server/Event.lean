import Rebac.Config.Address
import Rebac.Server.Kind

namespace Rebac.Server

/-!
# Events of the servers

What the servers of a process tell of themselves, in the order in which it happens.
-/

/-- What happened to a server. -/
inductive Event where
  /-- The server accepts connections. -/
  | started (server : Kind) (endpoint : Config.Endpoint)
  /-- The server ended with an error. -/
  | failed (server : Kind) (error : String)
  /-- The server was asked to stop. -/
  | stopping (server : Kind)
  /-- The server ended as it should. -/
  | stopped (server : Kind)
  deriving DecidableEq

namespace Event

/-- The server that an event is about. -/
def server : Event → Kind
  | started k _ | failed k _ | stopping k | stopped k => k

/-- The name of what happened. -/
def name : Event → String
  | started _ _ => "started"
  | failed _ _ => "failed"
  | stopping _ => "stopping"
  | stopped _ => "stopped"

end Event

end Rebac.Server
