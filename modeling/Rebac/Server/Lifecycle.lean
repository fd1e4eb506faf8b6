namespace Rebac.Server

/-!
# The life of the servers

* `Phase` is where the servers of a process are in their life.
* `Phase.precedes` says which phase may follow which, `Phase.become` moves on only if it may.
-/

/-- Where the servers are in their life. -/
inductive Phase where
  | initializing
  | binding
  | serving
  | shuttingDown
  | stopped
  | failed
  deriving DecidableEq, Inhabited

namespace Phase

/-- The name of a phase. -/
def name : Phase → String
  | initializing => "Initializing"
  | binding => "Binding"
  | serving => "Serving"
  | shuttingDown => "ShuttingDown"
  | stopped => "Stopped"
  | failed => "Failed"

/-- All phases. -/
def all : List Phase :=
  [initializing, binding, serving, shuttingDown, stopped, failed]

/-- The phase of that name. -/
def ofName? (s : String) : Option Phase :=
  all.find? fun p => p.name = s

/-- `true` iff the second phase may follow the first. A start may fail; once the servers serve they
    can only be shut down. -/
def precedes : Phase → Phase → Bool
  | initializing, binding | initializing, failed => true
  | binding, serving | binding, failed => true
  | serving, shuttingDown => true
  | shuttingDown, stopped => true
  | _, _ => false

/-- Moves on to another phase if it may follow, and stays otherwise. -/
def become (p next : Phase) : Phase :=
  if p.precedes next then next else p

end Phase

end Rebac.Server
