namespace Rebac.Server

/-!
# The servers of a process
-/

/-- The servers that a process may run. -/
inductive Kind where
  | primary
  | invoker
  | gateway
  | profiler
  deriving DecidableEq, Inhabited

/-- The name of a server. -/
def Kind.name : Kind → String
  | primary => "primary"
  | invoker => "invoker"
  | gateway => "gateway"
  | profiler => "profiler"

/-- All servers. -/
def Kind.all : List Kind :=
  [primary, invoker, gateway, profiler]

/-- The server of that name. -/
def Kind.ofName? (s : String) : Option Kind :=
  all.find? fun k => k.name = s

end Rebac.Server
