import Rebac.Credential.Authenticator
import Rebac.Service.Limiter
import Rebac.Service.Outcome

namespace Rebac.Service

/-!
# The stages before a handler

Every call passes the same stages in the same order before its handler runs: its message is
validated, breakdowns of what follows are caught, a permit is taken from the limiter, and the
credential is checked, if credentials are checked at all.

* `Gate` is what the stages share between calls.
* `Stage.around` is one stage, wrapped around the rest of the pipeline.
* `Gate.run` sends a call through all stages.
-/

/-- What the stages of all calls share: the limiter and the authenticator. -/
structure Gate where
  limiter : Limiter
  authenticator : Option Credential.Authenticator

/-- What the stages see of a call. -/
structure Call where
  /-- The first rule that the message breaks. -/
  violation : Option Rule.Violation
  /-- The named values that came with the call. -/
  metadata : Metadata
  /-- What is known from outside during the call. -/
  moment : Credential.Moment

/-- A stage of the pipeline. -/
inductive Stage where
  | validation
  | recovery
  | rateLimit
  | auth
  deriving DecidableEq

/-- The name of a stage. -/
def Stage.name : Stage → String
  | validation => "validation"
  | recovery => "recovery"
  | rateLimit => "rate_limit"
  | auth => "auth"

/-- The stages of a gate in their order. Calls that are answered once and calls that open a feed pass
    the same ones. -/
def Gate.stages (g : Gate) : List Stage :=
  [.validation, .recovery, .rateLimit] ++ (if g.authenticator.isSome then [.auth] else [])

section

variable {σ α : Type}

/-- A computation on the gate and a state behind it. -/
abbrev Step (σ α : Type) := Gate × σ → Outcome α × Gate × σ

/-- Catches a breakdown. -/
def recovering (next : Step σ α) : Step σ α := fun s =>
  match next s with
  | (.breakdown, s) => (.failure .brokenDown, s)
  | other => other

/-- Goes on only with a permit of the limiter. -/
def limiting (next : Step σ α) : Step σ α := fun (g, s) =>
  let (admitted, limiter) := g.limiter.acquire
  let g := { g with limiter := limiter }
  if admitted then next (g, s) else (.failure .overLimit, g, s)

/-- Goes on only with an accepted credential. -/
def authenticating (c : Call) (next : Step σ α) : Step σ α := fun (g, s) =>
  match g.authenticator with
  | none => next (g, s)
  | some a =>
    match Credential.ofMetadata c.metadata with
    | .error refusal => (.failure refusal.status, g, s)
    | .ok credential =>
      let (result, a) := a.validate c.moment credential
      let g := { g with authenticator := some a }
      match result with
      | .ok () => next (g, s)
      | .error refusal => (.failure refusal.status, g, s)

/-- A stage wrapped around the rest of the pipeline. -/
def Stage.around (c : Call) (next : Step σ α) : Stage → Step σ α
  | validation =>
    match c.violation with
    | some v => fun s => (.failure v.status, s)
    | none => next
  | recovery => recovering next
  | rateLimit => limiting next
  | auth => authenticating c next

/-- The handler of a call behind a list of stages. -/
def behind (c : Call) (handler : σ → Outcome α × σ) : List Stage → Step σ α
  | [] => fun (g, s) =>
    let (outcome, s) := handler s
    (outcome, g, s)
  | stage :: rest => stage.around c (behind c handler rest)

/-- Sends a call through the stages of the gate to its handler. -/
def Gate.run (g : Gate) (c : Call) (handler : σ → Outcome α × σ) (s : σ) : Outcome α × Gate × σ :=
  behind c handler g.stages (g, s)

end

end Rebac.Service
