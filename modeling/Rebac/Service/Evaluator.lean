import Rebac.Service.Outcome
import Rebac.Store.Evaluator

namespace Rebac.Service

open Rebac.Message

/-!
# Evaluators

An evaluator answers permission questions over a store, which it only reads.
-/

/-- One who answers checks and look-ups. -/
structure Evaluator where
  check : Store → CheckRequest → Outcome CheckResponse
  lookup : Store → LookupRequest → Outcome LookupResponse

namespace Evaluator

/-- Answers from the stored relationships alone. -/
def direct : Evaluator where
  check s r := .ofExcept (s.check r)
  lookup s r := .ofExcept (s.lookup r)

/-- Fails on every question. -/
def failing (e : ServiceError) : Evaluator where
  check _ _ := .ofExcept (.error e)
  lookup _ _ := .ofExcept (.error e)

/-- Breaks down on every question. -/
def breaking : Evaluator where
  check _ _ := .breakdown
  lookup _ _ := .breakdown

end Evaluator

end Rebac.Service
