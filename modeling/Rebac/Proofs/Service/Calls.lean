import Rebac.Proofs.Rule.Valid
import Rebac.Proofs.Service.Pipeline
import Rebac.Proofs.Store.Registry
import Rebac.Service.Backend

namespace Rebac.Service

open Rebac.Message

/-!
# Calls of the services

What a call of the services does to the store behind their gate, and when it is answered.

* `Gate.passes` — whether a call reaches its handler; `answer_run_iff` and `state_run` say that
  nothing else is answered, and that nothing else changes what stands behind the gate.
* `Rpc.operations` — what a call asks of the store; `store_handle` says that its handler does just
  this.
* `Backend.admits` — whether a valid call is let in.
* `store_call`, `answer_call_iff` — **what a call of the services does**, and what it answers.
* `store_created`, `removed_of_registered` — registrations that are answered, and removals that have
  to be.
-/

variable {σ α : Type} {g : Gate} {c : Call}

/-! ### Calls that reach their handler -/

/-- Whether a call reaches its handler: it breaks no rule, there is a permit left for it, and its
    credential is not refused. -/
def Gate.passes (g : Gate) (c : Call) : Bool :=
  c.violation.isNone && 0 < g.limiter.left && (g.consult c).1.isOk

/-- A call passes the gate exactly if no rule is broken, a permit is left and the credential is
    accepted. -/
theorem Gate.passes_iff :
    g.passes c = true
      ↔ c.violation = none ∧ 0 < g.limiter.left ∧ (g.consult c).1 = .ok () := by
  have hok : (g.consult c).1.isOk = true ↔ (g.consult c).1 = .ok () := by
    cases (g.consult c).1 with
    | error refusal => simp [Except.isOk, Except.toBool]
    | ok u => simp [Except.isOk, Except.toBool]
  rw [Gate.passes, Bool.and_eq_true, Bool.and_eq_true, hok, decide_eq_true_iff,
    Option.isNone_iff_eq_none, and_assoc]

/-- A call that does not reach its handler fails, and leaves what stands behind the gate alone. -/
theorem run_of_not_passes (handler : σ → Outcome α × σ) (s : σ) (h : g.passes c = false) :
    ∃ status g', g.run c handler s = (.failure status, g', s) := by
  cases hv : c.violation with
  | some v => exact ⟨_, _, run_of_violation hv⟩
  | none =>
    by_cases hl : 0 < g.limiter.left
    · cases hc : (g.consult c).1 with
      | error refusal => exact ⟨_, _, run_of_refused hv hl hc⟩
      | ok u =>
        have hpasses : g.passes c = true := Gate.passes_iff.mpr ⟨hv, hl, hc⟩
        rw [h] at hpasses
        exact absurd hpasses Bool.false_ne_true
    · exact ⟨_, _, run_of_spent hv (by omega)⟩

/-- A call that reaches its handler has its outcome, and does what it does. -/
theorem run_of_passes (handler : σ → Outcome α × σ) (s : σ) (h : g.passes c = true) :
    ∃ g', g.run c handler s = ((handler s).1.recovered, g', (handler s).2) := by
  obtain ⟨hv, hl, hc⟩ := Gate.passes_iff.mp h
  exact ⟨_, run_of_passed hv hl hc⟩

/-- Only a handler answers. -/
theorem answer_run_iff {handler : σ → Outcome α × σ} {s : σ} {a : α} :
    (g.run c handler s).1 = .answer a ↔ g.passes c = true ∧ (handler s).1 = .answer a := by
  cases h : g.passes c with
  | false =>
    obtain ⟨status, g', hrun⟩ := run_of_not_passes handler s h
    rw [hrun]
    simp
  | true =>
    obtain ⟨g', hrun⟩ := run_of_passes handler s h
    rw [hrun]
    cases (handler s).1 <;> simp [Outcome.recovered]

/-- No call breaks down in the sight of its caller. -/
theorem run_ne_breakdown (handler : σ → Outcome α × σ) (s : σ) :
    (g.run c handler s).1 ≠ .breakdown := by
  cases h : g.passes c with
  | false =>
    obtain ⟨status, g', hrun⟩ := run_of_not_passes handler s h
    rw [hrun]
    exact nofun
  | true =>
    obtain ⟨g', hrun⟩ := run_of_passes handler s h
    rw [hrun]
    cases (handler s).1 <;> exact nofun

/-- Only a handler changes what stands behind the gate. -/
theorem state_run {handler : σ → Outcome α × σ} {s : σ} :
    (g.run c handler s).2.2 = if g.passes c then (handler s).2 else s := by
  cases h : g.passes c with
  | false =>
    obtain ⟨status, g', hrun⟩ := run_of_not_passes handler s h
    rw [hrun, if_neg Bool.false_ne_true]
  | true =>
    obtain ⟨g', hrun⟩ := run_of_passes handler s h
    rw [hrun, if_pos rfl]

/-! ### Handlers on the store -/

/-- What a call asks of the store, if anything; what it only reads is left out. -/
def Rpc.operations (c : Rpc.Context) : (r : Rpc) → r.Request → List Store.Operation
  | .writeSchema, m => [.writeSchema m.tenantId m.schema c.version]
  | .writeData, m => [.write m.tenantId m.tuples]
  | .deleteData, m => [.delete m.tenantId (m.tupleFilter.getD {})]
  | .createTenant, m => [.createTenant c.now m.id m.name]
  | .deleteTenant, m => [.deleteTenant m.id]
  | _, _ => []

/-- A call that writes leaves the store as the operation does. -/
theorem store_writing {α β : Type} (s : Store) (f : α → β) (result : Except ServiceError (α × Store)) :
    (Rpc.writing s f result).2 = (s.settle result).2 := by
  cases result <;> rfl

/-- **A handler does to the store what its call asks for**, whatever the evaluator. -/
theorem store_handle (e : Evaluator) (c : Rpc.Context) (s : Store) (r : Rpc) (m : r.Request) :
    (r.handle e c s m).2 = s.after (r.operations c m) := by
  cases r with
  | createTenant => exact store_writing s _ _
  | deleteTenant => exact store_writing s _ _
  | _ => rfl

/-! ### Calls -/

/-- Whether a call of the services reaches its handler. -/
def Backend.passes (b : Backend) (around : Surroundings) (metadata : Metadata) (r : Rpc)
    (message : r.Request) : Bool :=
  b.gate.passes ⟨Rule.violation? message, metadata, around.moment⟩

/-- Whether a valid call would be let in now: there is a permit left for it, and its credential is not
    refused. What the call is does not matter. -/
def Backend.admits (b : Backend) (around : Surroundings) (metadata : Metadata) : Bool :=
  b.gate.passes ⟨none, metadata, around.moment⟩

/-- A call reaches its handler if its message is valid and it is let in. -/
theorem Backend.passes_iff {b : Backend} {around : Surroundings} {metadata : Metadata} {r : Rpc}
    {message : r.Request} :
    b.passes around metadata r message = true
      ↔ Rule.violation? message = none ∧ b.admits around metadata = true := by
  rw [Backend.passes, Backend.admits, Gate.passes_iff, Gate.passes_iff]
  -- The authenticator does not look at the message.
  exact ⟨fun ⟨hv, hl, hc⟩ => ⟨hv, rfl, hl, hc⟩, fun ⟨hv, _, hl, hc⟩ => ⟨hv, hl, hc⟩⟩

variable (b : Backend) (e : Evaluator) (around : Surroundings) (metadata : Metadata) (r : Rpc)
  (message : r.Request)

/-- A message that reaches its handler breaks no rule. -/
theorem valid_of_passes {b : Backend} {around : Surroundings} {metadata : Metadata} {r : Rpc}
    {message : r.Request} (h : b.passes around metadata r message = true) :
    Rule.violation? message = none :=
  (Gate.passes_iff.mp h).1

/-- **What a call of the services does to the store**: what it asks for, if it reaches its handler. -/
theorem store_call :
    (b.call e around metadata r message).2.store
      = if b.passes around metadata r message then
          b.store.after (r.operations around.context message)
        else b.store := by
  show (b.gate.run _ _ b.store).2.2 = _
  rw [state_run, store_handle]
  rfl

/-- **What a call of the services answers**: what its handler answers, if the call reaches it. -/
theorem answer_call_iff {a : r.Response} :
    (b.call e around metadata r message).1 = .answer a
      ↔ b.passes around metadata r message = true
        ∧ (r.handle e around.context b.store message).1 = .answer a :=
  answer_run_iff

/-! ### Registrations and removals -/

section Tenants

variable {b : Backend} {e : Evaluator} {around : Surroundings} {metadata : Metadata}

/-- A registration that is answered gives the id to a tenant that did not have it, and leaves what is
    stored as it is. -/
theorem store_created {m : TenantCreateRequest} {response : TenantCreateResponse}
    (h : (b.call e around metadata .createTenant m).1 = .answer response) :
    b.store.registry.find? m.id = none
      ∧ (b.call e around metadata .createTenant m).2.store
        = { b.store with registry := b.store.registry.insert ⟨m.id, m.name, around.context.now⟩ } := by
  obtain ⟨hpasses, hanswer⟩ := (answer_call_iff ..).mp h
  have hhandled : (Rpc.writing b.store (fun t => (⟨some t⟩ : TenantCreateResponse))
      (b.store.createTenant around.context.now m.id m.name)).1 = .answer response := hanswer
  rw [store_call, if_pos hpasses]
  show _ ∧ (b.store.settle (b.store.createTenant around.context.now m.id m.name)).2 = _
  unfold Store.createTenant at hhandled ⊢
  split
  · next htaken =>
    rw [if_pos htaken] at hhandled
    cases hhandled
  · next hfree =>
    rw [if_neg hfree] at hhandled
    split
    · next hfull =>
      rw [if_pos hfull] at hhandled
      cases hhandled
    · exact ⟨by simpa using hfree, rfl⟩

/-- The removal of a registered tenant is answered if it is let in, and the tenant is gone. -/
theorem removed_of_registered {id : String} {tenant : Tenant}
    (valid : Rule.NameKind.tenantId.accepts id = true) (admitted : b.admits around metadata = true)
    (registered : b.store.registry.find? id = some tenant) :
    (b.call e around metadata .deleteTenant ⟨id⟩).1 = .answer ⟨some tenant⟩
      ∧ (b.call e around metadata .deleteTenant ⟨id⟩).2.store.registry.find? id = none := by
  have hpasses : b.passes around metadata .deleteTenant ⟨id⟩ = true :=
    Backend.passes_iff.mpr ⟨Rule.valid_deleteTenant_iff.mpr valid, admitted⟩
  constructor
  · refine (answer_call_iff ..).mpr ⟨hpasses, ?_⟩
    show (Rpc.writing b.store _ (b.store.deleteTenant id)).1 = _
    unfold Store.deleteTenant Store.unregister
    rw [registered]
    rfl
  · rw [store_call, if_pos hpasses]
    show (b.store.perform (.deleteTenant id)).2.registry.find? id = none
    rw [Store.find?_perform]
    exact if_pos rfl

end Tenants

end Rebac.Service
