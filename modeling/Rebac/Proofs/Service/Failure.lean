import Rebac.Proofs.Service.Feeds

namespace Rebac.Service

open Rebac.Message Rebac.Credential

/-!
# Calls that fail

A call that fails leaves everything behind the gate as it was, and of the gate itself it changes the
limiter and, when an issuer was asked for its keys again, the key set only.

* `Refreshed` — authenticators that differ at most in the key set of an issuer; `refreshed_run` says
  that every call leaves such a one behind.
* `state_handle_of_failed`, `store_call_of_failed` — a failed call leaves the store alone.
* `Session.Kept` — what stays the same for everybody else, the feeds above all.
* `Session.kept_step` — **a failed call changes nothing**.
-/

/-! ### The authenticator -/

/-- The second authenticator is the first, but for the key set of an issuer. -/
inductive Refreshed : Option Authenticator → Option Authenticator → Prop
  | disabled : Refreshed none none
  | preshared (keys : KeyList) : Refreshed (some (.preshared keys)) (some (.preshared keys))
  | issuer (i : Issuer) (keys : Token.KeySet) :
      Refreshed (some (.issuer i)) (some (.issuer { i with keys := keys }))

/-- An authenticator that has done nothing is as good as refreshed. -/
theorem Refreshed.refl (a : Option Authenticator) : Refreshed a a := by
  cases a with
  | none => exact .disabled
  | some a =>
    cases a with
    | preshared keys => exact .preshared keys
    | issuer i => exact .issuer i i.keys

/-- What is refreshed twice is refreshed. -/
theorem Refreshed.trans {a b c : Option Authenticator} (h : Refreshed a b) (h' : Refreshed b c) :
    Refreshed a c := by
  cases h with
  | disabled => exact h'
  | preshared keys => exact h'
  | issuer i keys =>
    cases h' with
    | issuer _ keys' => exact .issuer i keys'

/-- An issuer that has checked a token differs from what it was in its key set only. -/
theorem exists_keys_validate (i : Issuer) (now : Nat) (keySet : Http.Exchange) (token : String) :
    ∃ keys, (i.validate now keySet token).issuer = { i with keys := keys } := by
  have hrefresh : ∃ keys, i.refresh keySet = { i with keys := keys } := by
    unfold Issuer.refresh
    split
    · next keys _ => exact ⟨keys, rfl⟩
    · exact ⟨i.keys, rfl⟩
  unfold Issuer.validate
  split
  · exact ⟨i.keys, rfl⟩
  · dsimp only
    split
    · exact ⟨i.keys, rfl⟩
    · -- The key is not known, so the key set is fetched again.
      split <;> exact hrefresh

/-- Checking a credential refreshes the keys of an authenticator at most. -/
theorem refreshed_validate (a : Authenticator) (m : Moment) (credential : String) :
    Refreshed (some a) (some (a.validate m credential).2) := by
  cases a with
  | preshared keys => exact .preshared keys
  | issuer i =>
    obtain ⟨keys, hkeys⟩ := exists_keys_validate i m.now m.keySet credential
    show Refreshed _ (some (.issuer (i.validate m.now m.keySet credential).issuer))
    rw [hkeys]
    exact .issuer i keys

/-- A gate that checks a credential refreshes the keys of its authenticator at most. -/
theorem refreshed_consult (g : Gate) (c : Call) : Refreshed g.authenticator (g.consult c).2 := by
  unfold Gate.consult
  cases g.authenticator with
  | none => exact .disabled
  | some a =>
    dsimp only
    split
    · exact .refl _
    · exact refreshed_validate a _ _

/-- **A call leaves the authenticator as it was**, but for the key set of an issuer. -/
theorem refreshed_run {σ α : Type} (g : Gate) (c : Call) (handler : σ → Outcome α × σ) (s : σ) :
    Refreshed g.authenticator (g.run c handler s).2.1.authenticator := by
  cases hv : c.violation with
  | some v =>
    rw [run_of_violation hv]
    exact .refl _
  | none =>
    by_cases hl : 0 < g.limiter.left
    · -- Whatever the authenticator says, it has been asked.
      cases hc : (g.consult c).1 with
      | error refusal =>
        rw [run_of_refused hv hl hc]
        exact refreshed_consult g c
      | ok u =>
        rw [run_of_passed hv hl hc]
        exact refreshed_consult g c
    · rw [run_of_spent hv (by omega)]
      exact .refl _

/-! ### The store -/

/-- An operation that gives no answer leaves the store as it is. -/
theorem state_writing_of_failed {α β : Type} {s : Store} {f : α → β}
    {result : Except ServiceError (α × Store)} (h : ∀ b, (Rpc.writing s f result).1 ≠ .answer b) :
    (Rpc.writing s f result).2 = s := by
  cases result with
  | ok p => exact absurd rfl (h (f p.1))
  | error failure => rfl

/-- **A handler that does not answer leaves the store alone**, whatever kept it from answering. -/
theorem state_handle_of_failed {e : Evaluator} {c : Rpc.Context} {s : Store} {r : Rpc} {m : r.Request}
    (h : ∀ a, (r.handle e c s m).1 ≠ .answer a) : (r.handle e c s m).2 = s := by
  -- Of the handlers that change the store, three always answer, and two change it last.
  cases r with
  | writeSchema => exact absurd rfl (h ⟨c.version⟩)
  | writeData => exact absurd rfl (h ⟨(s.write m.tenantId m.tuples).1⟩)
  | deleteData => exact absurd rfl (h ⟨(s.delete m.tenantId (m.tupleFilter.getD {})).1⟩)
  | createTenant => exact state_writing_of_failed h
  | deleteTenant => exact state_writing_of_failed h
  | _ => rfl

/-- **A call that fails leaves the store alone.** -/
theorem store_call_of_failed {b : Backend} {e : Evaluator} {around : Surroundings}
    {metadata : Metadata} {r : Rpc} {message : r.Request} {status : Status}
    (h : (b.call e around metadata r message).1 = .failure status) :
    (b.call e around metadata r message).2.store = b.store := by
  rw [store_call]
  split
  · next hpasses =>
    -- The call reached its handler, which has not answered, or the call would have been answered.
    have hfailed : ∀ a, (r.handle e around.context b.store message).1 ≠ .answer a := by
      intro a ha
      have hanswer := (answer_call_iff b e around metadata r message).mpr ⟨hpasses, ha⟩
      rw [h] at hanswer
      cases hanswer
    rw [← store_handle e around.context b.store r message]
    exact state_handle_of_failed hfailed
  · rfl

/-! ### Sessions -/

namespace Session

/-- What one session has kept of another: its store, its feeds, whether it is being stopped, and how
    credentials are checked, but for the key set of an issuer. Only the limiter may be any other. -/
structure Kept (s s' : Session) : Prop where
  store : s'.backend.store = s.backend.store
  feeds : s'.feeds = s.feeds
  draining : s'.backend.draining = s.backend.draining
  authenticator : Refreshed s.backend.gate.authenticator s'.backend.gate.authenticator

variable {s s' s'' : Session}

/-- A session is kept by doing nothing. -/
theorem Kept.refl (s : Session) : s.Kept s :=
  ⟨rfl, rfl, rfl, .refl _⟩

/-- What is kept twice is kept. -/
theorem Kept.trans (h : s.Kept s') (h' : s'.Kept s'') : s.Kept s'' where
  store := h'.store.trans h.store
  feeds := h'.feeds.trans h.feeds
  draining := h'.draining.trans h.draining
  authenticator := h.authenticator.trans h'.authenticator

/-- What has been kept shows in every feed: a look at it delivers the same as before. -/
theorem Kept.yields (h : s.Kept s') (event : Event) : s'.yields event = s.yields event := by
  obtain ⟨hstore, hfeeds, hdraining, -⟩ := h
  cases event with
  | poll name =>
    unfold Session.yields
    dsimp only
    rw [hfeeds]
    cases s.feeds.get? name with
    | none => rfl
    | some x =>
      have hpoll : s'.backend.poll x = s.backend.poll x := by
        unfold Backend.poll
        rw [hstore, hdraining]
      dsimp only
      rw [hpoll]
  | _ => rfl

/-- Whether an event is a call that is answered with a failure. -/
def Fails (e : Evaluator) (s : Session) : Event → Prop
  | .call r message around metadata =>
    ∃ status, (s.backend.call e around metadata r message).1 = .failure status
  | .watch _ request around metadata =>
    ∃ status, (s.backend.call e around metadata .watch request).1 = .failure status
  | _ => False

/-- What a failed call makes of a session whose feeds are left alone. -/
theorem kept_call {e : Evaluator} {around : Surroundings} {metadata : Metadata} {r : Rpc}
    {message : r.Request} {status : Status}
    (h : (s.backend.call e around metadata r message).1 = .failure status) :
    s.Kept ⟨(s.backend.call e around metadata r message).2, s.feeds⟩ where
  store := store_call_of_failed h
  feeds := rfl
  draining := rfl
  authenticator := refreshed_run _ _ _ _

/-- **A failed call changes nothing**, and opens no feed. -/
theorem kept_step {e : Evaluator} {event : Event} (h : s.Fails e event) : s.Kept (s.step e event) := by
  cases event with
  | call r message around metadata =>
    obtain ⟨status, hfailed⟩ := h
    exact kept_call hfailed
  | watch name request around metadata =>
    obtain ⟨status, hfailed⟩ := h
    have hstep : s.step e (.watch name request around metadata)
        = ⟨(s.backend.call e around metadata .watch request).2, s.feeds⟩ := by
      unfold step
      dsimp only
      rw [hfailed]
    rw [hstep]
    exact kept_call hfailed
  | _ => exact absurd h id

end Session

end Rebac.Service
