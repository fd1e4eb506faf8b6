import Rebac.Proofs.Service.Pipeline
import Rebac.Service.Backend
import Rebac.Token.BuiltIn

namespace Rebac.Service

/-!
# Many calls through one gate

All calls of a process go through one gate, in some order: calls of every kind, to either RPC server,
with handlers that answer, fail or break down. In between, the key set of an issuer may be fetched
again in the background.

* `Arrival` — a call that arrives, with the handler that waits for it.
* `Gate.serve` — an arrival sent through the gate; what stands behind the gate counts the handlers
  that run.
* `Gate.after` — the gate, and what stands behind it, after a run of events.
* `balanced_after` — after every run the books of the limiter are balanced.
* `reply_after` — what a call is answered after any run, and what it leaves behind.
-/

variable {σ : Type}

/-! ### Arrivals and runs -/

/-- A call that arrives at a gate: its message with what came along, and the handler that waits for
    it. -/
structure Arrival (σ : Type) where
  rpc : Rpc
  message : rpc.Request
  metadata : Metadata
  moment : Credential.Moment
  handler : σ → Outcome rpc.Response × σ

/-- What the stages see of an arrival. -/
def Arrival.call (a : Arrival σ) : Call :=
  ⟨Rule.violation? a.message, a.metadata, a.moment⟩

/-- What stands behind a gate: a state, and the number of handlers that have run on it. -/
structure Behind (σ : Type) where
  state : σ
  runs : Nat

/-- The handler of an arrival, counted when it runs. -/
def Arrival.counted (a : Arrival σ) (b : Behind σ) : Outcome a.rpc.Response × Behind σ :=
  ((a.handler b.state).1, ⟨(a.handler b.state).2, b.runs + 1⟩)

/-- Sends an arrival through the gate. -/
def Gate.serve (g : Gate) (a : Arrival σ) (b : Behind σ) :
    Outcome a.rpc.Response × Gate × Behind σ :=
  g.run a.call a.counted b

/-- The gate after the key set of its issuer, if it has one, was fetched in the background. -/
def Gate.refresh (g : Gate) (keySet : Http.Exchange) : Gate :=
  { g with authenticator := g.authenticator.map fun
    | .preshared keys => .preshared keys
    | .issuer i => .issuer (i.refresh keySet) }

/-- What happens at a gate. -/
inductive Event (σ : Type) where
  | arrival (a : Arrival σ)
  | refresh (keySet : Http.Exchange)

/-- One event at a gate. -/
def Gate.advance : Gate × Behind σ → Event σ → Gate × Behind σ
  | (g, b), .arrival a => (g.serve a b).2
  | (g, b), .refresh keySet => (g.refresh keySet, b)

/-- The gate and what stands behind it after a run of events. -/
def Gate.after (g : Gate) (s : σ) (events : List (Event σ)) : Gate × Behind σ :=
  events.foldl Gate.advance (g, ⟨s, 0⟩)

/-- Whether an event is a call whose message breaks no rule: such a call asks the limiter. -/
def Event.asks : Event σ → Bool
  | .arrival a => (Rule.violation? a.message).isNone
  | .refresh _ => false

/-! ### What a run keeps -/

/-- Only a valid call changes the limiter, by asking it. -/
theorem run_limiter {α : Type} (g : Gate) (c : Call) (handler : σ → Outcome α × σ) (s : σ) :
    (g.run c handler s).2.1.limiter
      = if c.violation.isNone then g.limiter.acquire.2 else g.limiter := by
  cases h : c.violation with
  | some v => rw [run_of_violation h]; rfl
  | none =>
    by_cases hl : 0 < g.limiter.left
    · cases hc : (g.consult c).1 with
      | error refusal => rw [run_of_refused h hl hc]; rfl
      | ok u => rw [run_of_passed h hl hc]; rfl
    · rw [run_of_spent h (by omega)]; rfl

/-- No call takes the authenticator away, or brings one. -/
theorem run_isSome {α : Type} (g : Gate) (c : Call) (handler : σ → Outcome α × σ) (s : σ) :
    (g.run c handler s).2.1.authenticator.isSome = g.authenticator.isSome := by
  cases h : c.violation with
  | some v => rw [run_of_violation h]
  | none =>
    by_cases hl : 0 < g.limiter.left
    · cases hc : (g.consult c).1 with
      | error refusal => rw [run_of_refused h hl hc]; exact g.isSome_consult c
      | ok u => rw [run_of_passed h hl hc]; exact g.isSome_consult c
    · rw [run_of_spent h (by omega)]

/-- The books stay balanced over one event. -/
theorem balanced_advance {rate asked : Nat} {p : Gate × Behind σ}
    (h : p.1.limiter.Balanced rate asked) (e : Event σ) :
    (Gate.advance p e).1.limiter.Balanced rate (asked + if e.asks then 1 else 0) := by
  obtain ⟨g, b⟩ := p
  cases e with
  | refresh keySet => exact h
  | arrival a =>
    show ((g.run a.call a.counted b).2.1.limiter).Balanced rate _
    rw [run_limiter]
    show Limiter.Balanced rate
      (asked + if (Rule.violation? a.message).isNone then 1 else 0)
      (if (Rule.violation? a.message).isNone then _ else _)
    by_cases hv : (Rule.violation? a.message).isNone
    · rw [if_pos hv, if_pos hv]
      exact h.acquire
    · rw [if_neg hv, if_neg hv]
      exact h

/-- Whether credentials are checked does not change. -/
theorem isSome_advance (p : Gate × Behind σ) (e : Event σ) :
    (Gate.advance p e).1.authenticator.isSome = p.1.authenticator.isSome := by
  cases e with
  | arrival a => exact run_isSome p.1 a.call a.counted p.2
  | refresh keySet => exact Option.isSome_map

/-- **The books of the limiter are balanced after every run**, over the valid calls of the run. -/
theorem balanced_after (rate : Nat) (authenticator : Option Credential.Authenticator) (s : σ)
    (events : List (Event σ)) :
    ((Gate.mk (.ofRate rate) authenticator).after s events).1.limiter.Balanced rate
      (events.countP Event.asks) := by
  -- The run so far may have begun anywhere with balanced books.
  suffices ∀ (p : Gate × Behind σ) (asked : Nat), p.1.limiter.Balanced rate asked →
      (events.foldl Gate.advance p).1.limiter.Balanced rate (asked + events.countP Event.asks) by
    have h := this (⟨.ofRate rate, authenticator⟩, ⟨s, 0⟩) 0 (.ofRate rate)
    rwa [Nat.zero_add] at h
  induction events with
  | nil => intro p asked h; exact h
  | cons e rest ih =>
    intro p asked h
    have hrest := ih _ _ (balanced_advance h e)
    rw [List.foldl_cons, List.countP_cons]
    have hsum : asked + (if e.asks then 1 else 0) + rest.countP Event.asks
        = asked + (rest.countP Event.asks + if e.asks then 1 else 0) := by omega
    rwa [hsum] at hrest

/-- A gate has an authenticator after a run exactly if it had one before. -/
theorem isSome_after (g : Gate) (s : σ) (events : List (Event σ)) :
    (g.after s events).1.authenticator.isSome = g.authenticator.isSome := by
  suffices ∀ p : Gate × Behind σ,
      (events.foldl Gate.advance p).1.authenticator.isSome = p.1.authenticator.isSome from this _
  induction events with
  | nil => intro p; rfl
  | cons e rest ih =>
    intro p
    rw [List.foldl_cons, ih, isSome_advance]

/-- Settings that ask for no authenticator, and no others, choose to check nothing. -/
theorem ofSettings_eq_disabled_iff {settings : Config.Authn} {strategy : Credential.Strategy}
    (h : Credential.Strategy.ofSettings settings = .ok strategy) :
    strategy = .disabled ↔ settings.enabled = false := by
  unfold Credential.Strategy.ofSettings at h
  cases he : settings.enabled with
  | false =>
    rw [he, Bool.not_false, if_pos rfl] at h
    cases h
    exact ⟨fun _ => rfl, fun _ => rfl⟩
  | true =>
    rw [he, Bool.not_true, if_neg Bool.false_ne_true] at h
    split at h
    · cases h; simp
    · split at h
      · cases h; simp
      · cases h

/-- Settings give an authenticator exactly if they ask for one. -/
theorem isSome_of_select {l : Token.Library} {settings : Config.Authn}
    {document : Http.Exchange} {keySet : String → Http.Exchange} {authenticator : Option Credential.Authenticator}
    (h : Credential.Authenticator.select l settings document keySet = .ok authenticator) :
    authenticator.isSome = settings.enabled := by
  unfold Credential.Authenticator.select at h
  cases hs : Credential.Strategy.ofSettings settings with
  | error f => rw [hs] at h; cases h
  | ok strategy =>
    have henabled := ofSettings_eq_disabled_iff hs
    cases strategy with
    | disabled =>
      rw [hs] at h
      cases h
      rw [henabled.mp rfl]
      rfl
    | preshared | oidc =>
      have hon : settings.enabled = true := by
        cases he : settings.enabled with
        | true => rfl
        | false => exact absurd (henabled.mpr he) (by decide)
      simp only [hs, bind, Except.bind] at h
      split at h
      · cases h
        rw [hon]
        rfl
      · cases h

/-! ### The calls of the services -/

/-- Counting the handlers changes neither the outcome of a call nor what it does. -/
theorem serve_eq_run (g : Gate) (a : Arrival σ) (b : Behind σ) :
    ((g.serve a b).1, (g.serve a b).2.1, (g.serve a b).2.2.state) = g.run a.call a.handler b.state := by
  unfold Gate.serve
  cases h : a.call.violation with
  | some v => rw [run_of_violation h, run_of_violation h]
  | none =>
    by_cases hl : 0 < g.limiter.left
    · cases hc : (g.consult a.call).1 with
      | error refusal => rw [run_of_refused h hl hc, run_of_refused h hl hc]
      | ok u => rw [run_of_passed h hl hc, run_of_passed h hl hc]; rfl
    · have hspent : g.limiter.left = 0 := by omega
      rw [run_of_spent h hspent, run_of_spent h hspent]

/-- A call of the services as an arrival: its handler works on the store. -/
def Rpc.arrival (e : Evaluator) (around : Surroundings) (metadata : Metadata) (r : Rpc)
    (message : r.Request) : Arrival Store :=
  ⟨r, message, metadata, around.moment, fun s => r.handle e around.context s message⟩

/-- **A call of the services is an arrival at their gate**, so what holds of arrivals holds of it. -/
theorem call_eq_serve (b : Backend) (e : Evaluator) (around : Surroundings) (metadata : Metadata)
    (r : Rpc) (message : r.Request) (runs : Nat) :
    let served := b.gate.serve (r.arrival e around metadata message) ⟨b.store, runs⟩
    b.call e around metadata r message
      = (served.1, { b with gate := served.2.1, store := served.2.2.state }) := by
  intro served
  let finish : Outcome r.Response × Gate × Store → Outcome r.Response × Backend :=
    fun out => (out.1, { b with gate := out.2.1, store := out.2.2 })
  have hrun := serve_eq_run b.gate (r.arrival e around metadata message) ⟨b.store, runs⟩
  exact congrArg finish hrun.symm

/-! ### What a call is answered -/

/-- The message of an arrival breaks no rule exactly if the stages see no violation. -/
@[simp] theorem Arrival.call_violation (a : Arrival σ) :
    a.call.violation = Rule.violation? a.message := rfl

/-- **The law of the pipeline.** After any run of calls through a gate that was set up from settings
    and a rate, the next call goes one of four ways. A broken rule is reported and leaves everything
    as it is; beyond the rate a call is only counted as rejected; a missing or refused credential
    costs a permit, and so does a call that is handled. Only in the last case a handler runs, once,
    and the caller receives its outcome, with a breakdown turned into a failure. -/
theorem reply_after {l : Token.Library} {settings : Config.Authn} {document : Http.Exchange}
    {keySet : String → Http.Exchange} {authenticator : Option Credential.Authenticator}
    (setUp : Credential.Authenticator.select l settings document keySet = .ok authenticator)
    (rate : Nat) (start : σ) (before : List (Event σ)) (a : Arrival σ) :
    let run := (Gate.mk (.ofRate rate) authenticator).after start before
    let g := run.1
    let b := run.2
    let reply := (g.serve a b).1
    let g' := (g.serve a b).2.1
    let b' := (g.serve a b).2.2
    -- The stages, and the totals of the limiter over the valid calls of the run.
    g.stages.map Stage.name
        = ["validation", "recovery", "rate_limit"] ++ (if settings.enabled then ["auth"] else [])
    ∧ g.limiter.admitted = min rate (before.countP Event.asks)
    ∧ g.limiter.rejected = before.countP Event.asks - rate
    -- A message that breaks a rule.
    ∧ (∀ v, Rule.violation? a.message = some v →
        reply = .failure ⟨.invalidArgument, "invalid " ++ v.field ++ ": " ++ v.reason.message⟩
        ∧ g'.limiter = g.limiter ∧ b' = b)
    -- A call beyond the rate.
    ∧ (Rule.violation? a.message = none → g.limiter.admitted = rate →
        reply = .failure ⟨.resourceExhausted, "rate limit exceeded"⟩
        ∧ g'.limiter = { g.limiter with rejected := g.limiter.rejected + 1 } ∧ b' = b)
    -- A call within the rate, refused or handled.
    ∧ (Rule.violation? a.message = none → g.limiter.admitted ≠ rate →
        g'.limiter.admitted = g.limiter.admitted + 1
        ∧ g'.limiter.rejected = g.limiter.rejected
        ∧ (∀ refusal, (g.consult a.call).1 = .error refusal →
            settings.enabled = true
            ∧ reply = .failure ⟨.unauthenticated, refusal.message⟩ ∧ b' = b)
        ∧ ((g.consult a.call).1 = .ok () →
            reply = (match (a.handler b.state).1 with
              | .breakdown => .failure ⟨.internal, "internal error"⟩
              | outcome => outcome)
            ∧ b' = ⟨(a.handler b.state).2, b.runs + 1⟩)) := by
  intro run g b reply g' b'
  have hbooks : g.limiter.Balanced rate (before.countP Event.asks) :=
    balanced_after rate authenticator start before
  have hauth : g.authenticator.isSome = settings.enabled := by
    rw [← isSome_of_select setUp]
    exact isSome_after _ start before
  refine ⟨?_, hbooks.admitted_eq, hbooks.rejected_eq, ?_, ?_, ?_⟩
  · rw [Gate.stages, hauth]
    cases settings.enabled <;> rfl
  · intro v hv
    have hrun : g.serve a b = (.failure v.status, g, b) := run_of_violation hv
    have hreply : reply = .failure v.status := congrArg (·.1) hrun
    exact ⟨hreply, congrArg (·.2.1.limiter) hrun, congrArg (·.2.2) hrun⟩
  · intro hv hfull
    have hl : g.limiter.left = 0 := hbooks.left_eq_zero_iff.mpr hfull
    have hrun : g.serve a b = (.failure .overLimit, { g with limiter := g.limiter.acquire.2 }, b) :=
      run_of_spent hv hl
    rw [Limiter.acquire_of_spent hl] at hrun
    exact ⟨congrArg (·.1) hrun, congrArg (·.2.1.limiter) hrun, congrArg (·.2.2) hrun⟩
  · intro hv hroom
    have hl : 0 < g.limiter.left := by
      have := hbooks.left_eq_zero_iff
      omega
    -- The limiter is asked before the verdict is known.
    have hlimiter : g'.limiter = g.limiter.acquire.2 := by
      have hasked := run_limiter g a.call a.counted b
      rwa [Arrival.call_violation, hv] at hasked
    rw [Limiter.acquire_of_left hl] at hlimiter
    refine ⟨congrArg (·.admitted) hlimiter, congrArg (·.rejected) hlimiter, ?_, ?_⟩
    · intro refusal hc
      have hrun : g.serve a b
          = (.failure refusal.status, ⟨g.limiter.acquire.2, (g.consult a.call).2⟩, b) :=
        run_of_refused hv hl hc
      refine ⟨?_, congrArg (·.1) hrun, congrArg (·.2.2) hrun⟩
      rw [← hauth]
      cases hg : g.authenticator with
      | some _ => rfl
      | none => simp [Gate.consult, hg] at hc
    · intro hc
      have hrun : g.serve a b = ((a.counted b).1.recovered,
          ⟨g.limiter.acquire.2, (g.consult a.call).2⟩, (a.counted b).2) :=
        run_of_passed hv hl hc
      refine ⟨?_, congrArg (·.2.2) hrun⟩
      have hreply : reply = (a.handler b.state).1.recovered := congrArg (·.1) hrun
      rw [hreply]
      cases (a.handler b.state).1 <;> rfl

/-- A listing of the tenants, answered by counting. -/
def listing (metadata : Metadata) : Arrival Nat where
  rpc := .listTenants
  message := {}
  metadata := metadata
  moment := ⟨0, .unreachable⟩
  handler s := (.answer {}, s + 1)

/-- With two permits and one of them used, a listing without a credential is refused. -/
theorem reply_after_listing :
    let settings : Config.Authn := { enabled := true, preshared := ⟨["k1"]⟩ }
    let keys : Credential.KeyList := ⟨["k1"], by decide, by decide⟩
    let run := (Gate.mk (.ofRate 2) (some (.preshared keys))).after 0
      [.arrival (listing [⟨"authorization", Json.bytesOfText "Bearer k1"⟩])]
    Credential.Authenticator.select .builtIn settings .unreachable (fun _ => .unreachable)
        = .ok (some (.preshared keys))
    ∧ (run.1.serve (listing []) run.2).1
        = .failure ⟨.unauthenticated, "missing bearer credentials"⟩ := by
  intro settings keys run
  have setUp : Credential.Authenticator.select .builtIn settings .unreachable
      (fun _ => .unreachable) = .ok (some (.preshared keys)) := rfl
  obtain ⟨-, hadmitted, -, -, -, hwithin⟩ := reply_after setUp 2 0
    [.arrival (listing [⟨"authorization", Json.bytesOfText "Bearer k1"⟩])] (listing [])
  have hroom : run.1.limiter.admitted ≠ 2 := by
    have hone : run.1.limiter.admitted = 1 := hadmitted
    omega
  obtain ⟨-, -, hrefused, -⟩ := hwithin rfl hroom
  exact ⟨setUp, (hrefused .missing rfl).2.1⟩

end Rebac.Service
