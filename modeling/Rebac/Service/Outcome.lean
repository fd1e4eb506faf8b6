import Rebac.Status

namespace Rebac.Service

/-!
# Outcomes
-/

/-- How handling a call ends: with an answer, with a failure for the caller, or by breaking down. -/
inductive Outcome (α : Type) where
  | answer (value : α)
  | failure (status : Status)
  | breakdown
  deriving DecidableEq

namespace Outcome

variable {α β : Type}

/-- The outcome with its answer changed. -/
def map (f : α → β) : Outcome α → Outcome β
  | answer a => answer (f a)
  | failure s => failure s
  | breakdown => breakdown

/-- The outcome of an operation of the store. -/
def ofExcept : Except ServiceError α → Outcome α
  | .ok a => answer a
  | .error e => failure e.status

end Outcome

end Rebac.Service
