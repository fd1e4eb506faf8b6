import Rebac.Proofs.Server.Shutdown
import Rebac.Proofs.Steps
import Mathlib.Data.List.Chain
import Mathlib.Logic.Function.Basic

namespace Rebac

/-!
# Starting is all or nothing

What a start leaves behind on every machine, whatever fails on the way.

* `Holdings` — what the process has of each server; `holdings` computes it from what was done, if that
  made sense: nothing is given back that was not held, nothing is opened twice.
* `Launching.Ensures` — what a part of a start leads to, with a rule for each way to build one.
* `ensures_openListener`, `ensures_startRpc`, `ensures_withGateway`, `ensures_withProfiler`,
  `ensures_launch` — what each part leaves behind when it succeeds and when it fails.
* `starts_all_or_nothing` — **a failed start leaves nothing behind, a successful one runs what the
  settings ask for, and settings that cannot be used fail before anything is opened**.
-/

/-- Failures that must not come after a listener was opened. -/
def Failure.early : Failure → Bool
  | settings _ | unknownMethod _ | badCredentialSettings _ | discovery _ _ | tls _ => true
  | bind .. | dial .. | serve .. | shutdown _ | io _ => false

namespace Server

open Rebac.Config Launching

/-! ### What a start holds -/

/-- What the process has of a server. -/
inductive Holding where
  /-- No listener is open. -/
  | nothing
  /-- The listener is open, and no server has taken it over. -/
  | listener
  /-- The server runs; the listener belongs to it. -/
  | server
  /-- The server was told to end, with its listener. -/
  | ended
  deriving DecidableEq

/-- `true` iff nothing of a server stays. -/
def Holding.released : Holding → Bool
  | nothing | ended => true
  | listener | server => false

/-- What the process has of each server. -/
abbrev Holdings := Kind → Holding

namespace Holdings

/-- Nothing is open and nothing runs. -/
def none : Holdings :=
  fun _ => .nothing

/-- Some servers run, and nothing else is open. -/
def ofRunning (running : List Kind) : Holdings :=
  fun k => if k ∈ running then .server else .nothing

end Holdings

namespace Action

/-- The server that an action is about. -/
def server : Action → Kind
  | bind k | hold k | release k | spawn k | cancel k | abort k => k

/-- What an action needs the process to have of the server. -/
def before : Action → Holding
  | bind _ | hold _ => .nothing
  | release _ | spawn _ => .listener
  | cancel _ | abort _ => .server

/-- What the process has of the server after an action. -/
def after : Action → Holding
  | bind _ | release _ => .nothing
  | hold _ => .listener
  | spawn _ => .server
  | cancel _ | abort _ => .ended

/-- What the process has after an action that makes sense. -/
def effect (held : Holdings) (a : Action) : Option Holdings :=
  if held a.server = a.before then some (Function.update held a.server a.after) else none

end Action

/-- What the process has after some actions, if all of them made sense. -/
def holdings (actions : List Action) : Option Holdings :=
  actions.foldlM Action.effect .none

/-! ### What a part of a start leads to -/

section Parts

variable {α β : Type} {held after : Holdings} {part : Launching α} {next : α → Launching β}
  {ok : α → Holdings → Prop} {ok' : β → Holdings → Prop} {failed between : Failure → Holdings → Prop}

/-- Whatever was done before, if the process has `held` then a part makes sense and leads to a result
    and holdings as told. -/
def Launching.Ensures (part : Launching α) (held : Holdings) (ok : α → Holdings → Prop)
    (failed : Failure → Holdings → Prop) : Prop :=
  ∀ done, holdings done = some held → ∃ after, holdings (part.run done).2 = some after
    ∧ match (part.run done).1 with
      | .ok a => ok a after
      | .error f => failed f after

/-- Everything is done before the failure. -/
theorem run_failWith (actions : List Action) (f : Failure) (done : List Action) :
    (failWith actions f : Launching α).run done = (.error f, done ++ actions) := by
  induction actions generalizing done with
  | nil => rw [List.append_nil]; rfl
  | cons a actions ih =>
    have hrun : (failWith (a :: actions) f : Launching α).run done
        = (failWith actions f : Launching α).run (done ++ [a]) := rfl
    rw [hrun, ih, List.append_assoc, List.singleton_append]

/-- A part that succeeds is left as it is, otherwise something is done after it. -/
theorem run_orElseDo (part : Launching α) (actions done : List Action) :
    (orElseDo part actions).run done
      = ((part.run done).1, match (part.run done).1 with
        | .ok _ => (part.run done).2
        | .error _ => (part.run done).2 ++ actions) := by
  have hrun {γ δ : Type} (first : StateM (List Action) γ) (second : γ → StateM (List Action) δ) :
      (first >>= second) done = second (first done).1 (first done).2 := rfl
  rw [orElseDo, ExceptT.run_tryCatch, hrun]
  cases (part.run done).1 with
  | ok a => rfl
  | error f => exact run_failWith actions f _

namespace Launching.Ensures

/-- A part that does nothing ensures what holds already. -/
theorem pure {a : α} (h : ok a held) : (Pure.pure a : Launching α).Ensures held ok failed :=
  fun _ hdone => ⟨held, hdone, h⟩

/-- A part that fails ensures what holds already. -/
theorem throw {f : Failure} (h : failed f held) :
    (MonadExcept.throw f : Launching α).Ensures held ok failed :=
  fun _ hdone => ⟨held, hdone, h⟩

/-- A check does nothing. -/
theorem check {x : Except Failure α} (hok : ∀ a, x = .ok a → ok a held)
    (hfailed : ∀ f, x = .error f → failed f held) :
    (liftM x : Launching α).Ensures held ok failed := by
  intro done hdone
  refine ⟨held, hdone, ?_⟩
  cases x with
  | ok a => exact hok a rfl
  | error f => exact hfailed f rfl

/-- **Two parts after each other ensure what the second one does**, if a failure of the first one is
    good enough. -/
theorem bind (h : part.Ensures held ok between)
    (hfailed : ∀ f after, between f after → failed f after)
    (hnext : ∀ a after, ok a after → (next a).Ensures after ok' failed) :
    (part >>= next).Ensures held ok' failed := by
  intro done hdone
  obtain ⟨after, hafter, hpart⟩ := h done hdone
  have hrun : (part >>= next).run done
      = ExceptT.bindCont next (part.run done).1 (part.run done).2 := rfl
  rw [hrun]
  cases hresult : (part.run done).1 with
  | ok a =>
    rw [hresult] at hpart
    exact hnext a after hpart _ hafter
  | error f =>
    rw [hresult] at hpart
    exact ⟨after, hafter, hfailed f after hpart⟩

/-- What is done before a part fails is done to what the part leaves behind. -/
theorem orElseDo {actions : List Action} (h : part.Ensures held ok between)
    (hundo : ∀ f held, between f held →
      ∃ after, actions.foldlM Action.effect held = some after ∧ failed f after) :
    (Launching.orElseDo part actions).Ensures held ok failed := by
  intro done hdone
  obtain ⟨after, hafter, hpart⟩ := h done hdone
  rw [run_orElseDo]
  cases hresult : (part.run done).1 with
  | ok a =>
    rw [hresult] at hpart
    exact ⟨after, hafter, hpart⟩
  | error f =>
    rw [hresult] at hpart
    obtain ⟨undone, hundone, hfailed⟩ := hundo f after hpart
    refine ⟨undone, ?_, hfailed⟩
    rw [holdings] at hafter
    show holdings ((part.run done).2 ++ actions) = some undone
    rw [holdings, List.foldlM_append, hafter]
    exact hundone

/-- What is ensured may be weakened. -/
theorem mono {ok' : α → Holdings → Prop} (h : part.Ensures held ok between)
    (hok : ∀ a after, ok a after → ok' a after)
    (hfailed : ∀ f after, between f after → failed f after) : part.Ensures held ok' failed := by
  intro done hdone
  obtain ⟨after, hafter, hpart⟩ := h done hdone
  refine ⟨after, hafter, ?_⟩
  cases hresult : (part.run done).1 with
  | ok a =>
    rw [hresult] at hpart
    exact hok a after hpart
  | error f =>
    rw [hresult] at hpart
    exact hfailed f after hpart

/-- What comes after a check starts with what was there before it. -/
theorem check_bind {x : Except Failure α} (hnext : ∀ a, x = .ok a → (next a).Ensures held ok' failed)
    (hfailed : ∀ f, x = .error f → failed f held) :
    ((liftM x : Launching α) >>= next).Ensures held ok' failed := by
  have hcheck : (liftM x : Launching α).Ensures held (fun a after => x = .ok a ∧ after = held) failed :=
    .check (fun _ h => ⟨h, rfl⟩) hfailed
  refine hcheck.bind (fun _ _ h => h) ?_
  rintro a _ ⟨ha, rfl⟩
  exact hnext a ha

/-- What comes after a check starts with what was there before it; if it fails something is undone. -/
theorem check_orElseDo_bind {x : Except Failure α} {actions : List Action}
    (hnext : ∀ a, x = .ok a → (next a).Ensures held ok' failed)
    (hfailed : ∀ f, x = .error f →
      ∃ after, actions.foldlM Action.effect held = some after ∧ failed f after) :
    (Launching.orElseDo (liftM x) actions >>= next).Ensures held ok' failed := by
  have hcheck : (liftM x : Launching α).Ensures held (fun a after => x = .ok a ∧ after = held)
      (fun f after => x = .error f ∧ after = held) :=
    .check (fun _ h => ⟨h, rfl⟩) fun _ h => ⟨h, rfl⟩
  have hundone : (Launching.orElseDo (liftM x) actions).Ensures held
      (fun a after => x = .ok a ∧ after = held) failed := by
    refine hcheck.orElseDo ?_
    rintro f _ ⟨hf, rfl⟩
    exact hfailed f hf
  refine hundone.bind (fun _ _ h => h) ?_
  rintro a _ ⟨ha, rfl⟩
  exact hnext a ha

/-- What comes after an action starts with its effect. -/
theorem act_bind {a : Action} {next : Unit → Launching β} (h : held a.server = a.before)
    (hnext : (next ()).Ensures (Function.update held a.server a.after) ok' failed) :
    (act a >>= next).Ensures held ok' failed := by
  have hact : (act a).Ensures held (fun _ after => after = Function.update held a.server a.after)
      failed := by
    intro done hdone
    refine ⟨_, ?_, rfl⟩
    show holdings (done ++ [a]) = _
    rw [holdings] at hdone
    rw [holdings, List.foldlM_append, hdone]
    show a.effect held >>= Pure.pure = _
    rw [Action.effect, if_pos h]
    rfl
  refine hact.bind (fun _ _ h => h) ?_
  rintro ⟨⟩ _ rfl
  exact hnext

end Launching.Ensures

end Parts

/-! ### What comes of a listener -/

/-- What comes of opening the listener of a server. Settings that name no address are as good as a
    refusal. -/
def Machine.binding (m : Machine) (c : Config) (k : Kind) : Binding :=
  match endpointOf c k with
  | .error f => .refused f.message
  | .ok endpoint => m.bind k endpoint

namespace Binding

/-- The address of an open listener, if it can be read. -/
def address? : Binding → Option Endpoint
  | opened (.ok endpoint) => some endpoint
  | _ => none

/-- `true` iff the listener is open. -/
def isOpen : Binding → Bool
  | refused _ => false
  | opened _ => true

/-- A listener that is not open has no address. -/
theorem address?_of_closed {b : Binding} (h : b.isOpen = false) : b.address? = none := by
  cases b with
  | refused reason => rfl
  | opened address => cases h

end Binding

namespace Machine

/-- Whether the gateway can be started if it is enabled: the primary server is reached, and the
    listener of the gateway is open under an address that can be read. -/
def ServesGateway (m : Machine) (c : Config) (p : Prepared) (primary : Endpoint) : Prop :=
  c.server.http.enabled →
    m.dial (loopback primary) p.rpcTls = .ok () ∧ (m.binding c .gateway).address?.isSome

/-- Whether the profiler does not get in the way if it is enabled: its listener is refused, or open
    under an address that can be read. -/
def ServesProfiler (m : Machine) (c : Config) : Prop :=
  c.profiler.enabled → (m.binding c .profiler).isOpen → (m.binding c .profiler).address?.isSome

/-- Whether all servers can be started. -/
def Launches (m : Machine) (c : Config) (p : Prepared) : Prop :=
  ∃ primary, (m.binding c .primary).address? = some primary
    ∧ (m.binding c .invoker).address?.isSome
    ∧ m.ServesGateway c p primary ∧ m.ServesProfiler c

/-- Which servers run after a successful start. -/
def Runs (m : Machine) (c : Config) : Kind → Prop
  | .primary | .invoker => True
  | .gateway => c.server.http.enabled
  | .profiler => c.profiler.enabled ∧ (m.binding c .profiler).isOpen

end Machine

section Listeners

variable {m : Machine} {c : Config} {p : Prepared} {k : Kind} {held : Holdings} {primary : Endpoint}

/-- Whether settings name an address does not depend on the server. -/
theorem endpointOf_eq (c : Config) (k : Kind) :
    endpointOf c k = match Address.parse? c.server.host with
      | some a => .ok ⟨a, (portOf c k).toNat⟩
      | none => .error (.settings (badHost c.server.host)) := by
  unfold endpointOf bindAddress
  cases Address.parse? c.server.host <;> rfl

/-- If settings name an address then the machine decides whether a listener can be opened there. -/
theorem binding_of_endpoint {endpoint : Endpoint} (h : endpointOf c k = .ok endpoint) :
    m.binding c k = m.bind k endpoint := by
  unfold Machine.binding
  split
  · next f hf =>
    rw [h] at hf
    cases hf
  · next other hother =>
    rw [h] at hother
    rw [Except.ok.inj hother]

/-- Closing what is not open changes nothing. -/
theorem update_nothing (h : held k = .nothing) : Function.update held k .nothing = held := by
  rw [← h, Function.update_eq_self]

/-- An address that cannot be read is no fault of the settings. -/
theorem early_of_addressOf {address : Except String Endpoint} {f : Failure}
    (h : addressOf address = .error f) : f.early = false := by
  cases address with
  | ok endpoint => cases h
  | error reason => cases h; rfl

/-- A listener that was just opened goes to its server once its address is read; otherwise it is
    closed, and everything is as it was. -/
theorem ensures_takeOver {γ : Type} (address : Except String Endpoint) (g : Endpoint → γ)
    (h : held k = .nothing) :
    (orElseDo (liftM (addressOf address)) [.release k] >>= fun endpoint => do
        act (.spawn k)
        pure (g endpoint)).Ensures (Function.update held k .listener)
      (fun x after => ∃ endpoint, address = .ok endpoint ∧ x = g endpoint
        ∧ after = Function.update held k .server)
      (fun f after => (∃ reason, address = .error reason) ∧ f.early = false ∧ after = held) := by
  refine .check_orElseDo_bind ?_ ?_
  · intro endpoint hendpoint
    refine .act_bind (Function.update_self ..) (.pure ⟨endpoint, mapError_eq_ok_iff.mp hendpoint, rfl, ?_⟩)
    exact Function.update_idem ..
  · intro f hf
    have hclosed : (Action.release k).effect (Function.update held k .listener) = some held := by
      have hback : Function.update (Function.update held k .listener) k .nothing = held := by
        rw [Function.update_idem, update_nothing h]
      exact (if_pos (Function.update_self ..)).trans (congrArg some hback)
    refine ⟨held, by rw [List.foldlM_cons, hclosed]; rfl, ?_, early_of_addressOf hf, rfl⟩
    cases address with
    | ok endpoint => cases hf
    | error reason => exact ⟨reason, rfl⟩

variable (host : (Address.parse? c.server.host).isSome)

include host

/-- Under a host that is an address every server has an endpoint. -/
theorem exists_endpointOf (k : Kind) : ∃ endpoint, endpointOf c k = .ok endpoint := by
  obtain ⟨a, ha⟩ := Option.isSome_iff_exists.mp host
  rw [endpointOf_eq, ha]
  exact ⟨_, rfl⟩

/-- Opening a listener leaves it open, or everything as it was. -/
theorem ensures_openListener (h : held k = .nothing) :
    (openListener m c k).Ensures held
      (fun address after =>
        m.binding c k = .opened address ∧ after = Function.update held k .listener)
      (fun f after => (m.binding c k).isOpen = false ∧ f.early = false ∧ after = held) := by
  obtain ⟨endpoint, hendpoint⟩ := exists_endpointOf host k
  have hbinding : m.binding c k = m.bind k endpoint := binding_of_endpoint hendpoint
  rw [openListener, hendpoint]
  refine .check_bind ?_ nofun
  rintro _ ⟨⟩
  refine .act_bind h ?_
  rw [show Action.server (.bind k) = k from rfl, show Action.after (.bind k) = .nothing from rfl,
    update_nothing h]
  cases hbind : m.bind k endpoint with
  | refused reason =>
    exact .throw ⟨by rw [hbinding, hbind]; rfl, rfl, rfl⟩
  | opened address =>
    refine .act_bind h (.pure ⟨?_, rfl⟩)
    rw [hbinding, hbind]

/-- Both RPC servers are started, or everything is as it was. -/
theorem ensures_startRpc :
    (startRpc m c).Ensures .none
      (fun addresses after => m.binding c .primary = .opened (.ok addresses.1)
        ∧ m.binding c .invoker = .opened (.ok addresses.2) ∧ after = .ofRunning [.primary, .invoker])
      (fun f after => ((m.binding c .primary).address? = none ∨ (m.binding c .invoker).address? = none)
        ∧ f.early = false ∧ after = .none) := by
  unfold startRpc
  refine .bind (ensures_openListener host rfl) ?_ ?_
  · rintro f _ ⟨hclosed, hlate, rfl⟩
    exact ⟨.inl (Binding.address?_of_closed hclosed), hlate, rfl⟩
  rintro primary _ ⟨hprimary, rfl⟩
  refine .bind (.orElseDo (ensures_openListener host rfl) ?_) (fun _ _ h => h) ?_
  · rintro f _ ⟨hclosed, hlate, rfl⟩
    refine ⟨_, rfl, .inr (Binding.address?_of_closed hclosed), hlate, ?_⟩
    funext k
    cases k <;> rfl
  rintro invoker _ ⟨hinvoker, rfl⟩
  -- Both listeners are open before either address is read, so both have to be closed again.
  refine .check_orElseDo_bind ?_ ?_
  · rintro ⟨p, i⟩ haddresses
    obtain ⟨_, hp, haddresses⟩ := bind_eq_ok_iff.mp haddresses
    obtain ⟨_, hi, haddresses⟩ := bind_eq_ok_iff.mp haddresses
    cases haddresses
    refine .act_bind rfl (.act_bind rfl (.pure ⟨?_, ?_, ?_⟩))
    · rw [hprimary, mapError_eq_ok_iff.mp hp]
    · rw [hinvoker, mapError_eq_ok_iff.mp hi]
    · funext k
      cases k <;> rfl
  · intro f hf
    refine ⟨_, rfl, ?_, ?_, ?_⟩
    · rw [hprimary, hinvoker]
      cases primary with
      | error reason => exact .inl rfl
      | ok p =>
        cases invoker with
        | error reason => exact .inr rfl
        | ok i => cases hf
    · cases primary with
      | error reason => cases hf; rfl
      | ok p =>
        cases invoker with
        | error reason => cases hf; rfl
        | ok i => cases hf
    · funext k
      cases k <;> rfl

/-- The gateway is started, or everything is as it was. -/
theorem ensures_startGateway (htls : takeUp p.httpTls = .ok ()) (h : held .gateway = .nothing) :
    (startGateway m c p primary).Ensures held
      (fun endpoint after => m.dial (loopback primary) p.rpcTls = .ok ()
        ∧ m.binding c .gateway = .opened (.ok endpoint)
        ∧ after = Function.update held .gateway .server)
      (fun f after => ¬ (m.dial (loopback primary) p.rpcTls = .ok ()
          ∧ (m.binding c .gateway).address?.isSome)
        ∧ f.early = false ∧ after = held) := by
  unfold startGateway
  cases hdial : m.dial (loopback primary) p.rpcTls with
  | error reason => exact .throw ⟨nofun, rfl, rfl⟩
  | ok =>
    refine .check_bind ?_ (fun f hf => by rw [htls] at hf; cases hf)
    rintro ⟨⟩ -
    refine .bind (ensures_openListener host h) ?_ ?_
    · rintro f _ ⟨hclosed, hlate, rfl⟩
      refine ⟨?_, hlate, rfl⟩
      rw [Binding.address?_of_closed hclosed]
      nofun
    · rintro address _ ⟨hopened, rfl⟩
      refine .mono (ensures_takeOver address id h) ?_ ?_
      · rintro _ after ⟨endpoint, rfl, rfl, hafter⟩
        exact ⟨rfl, hopened, hafter⟩
      · rintro f after ⟨⟨reason, rfl⟩, hlate, hafter⟩
        refine ⟨?_, hlate, hafter⟩
        rw [hopened]
        nofun

/-- The profiler is started, or everything is as it was; that its listener is refused is no
    failure. -/
theorem ensures_startProfiler (h : held .profiler = .nothing) :
    (startProfiler m c).Ensures held
      (fun endpoint after => ((m.binding c .profiler).isOpen → (m.binding c .profiler).address?.isSome)
        ∧ endpoint.isSome = (m.binding c .profiler).isOpen
        ∧ after = if endpoint.isSome then Function.update held .profiler .server else held)
      (fun f after => ¬ ((m.binding c .profiler).isOpen → (m.binding c .profiler).address?.isSome)
        ∧ f.early = false ∧ after = held) := by
  obtain ⟨endpoint, hendpoint⟩ := exists_endpointOf host .profiler
  unfold startProfiler
  rw [binding_of_endpoint hendpoint, hendpoint]
  refine .act_bind h ?_
  show Launching.Ensures _ (Function.update held .profiler .nothing) _ _
  rw [update_nothing h]
  cases m.bind .profiler endpoint with
  | refused reason => exact .pure ⟨nofun, rfl, rfl⟩
  | opened address =>
    refine .act_bind h (.mono (ensures_takeOver address some h) ?_ ?_)
    · rintro _ after ⟨endpoint, rfl, rfl, hafter⟩
      exact ⟨fun _ => rfl, rfl, hafter⟩
    · rintro f after ⟨⟨reason, rfl⟩, hlate, hafter⟩
      exact ⟨fun hread => absurd (hread rfl) nofun, hlate, hafter⟩

/-- The gateway is started if it is enabled, or no server stays. -/
theorem ensures_withGateway (htls : takeUp p.httpTls = .ok ()) :
    (withGateway m c p primary).Ensures (.ofRunning [.primary, .invoker])
      (fun gateway after => m.ServesGateway c p primary ∧ gateway.isSome = c.server.http.enabled
        ∧ after = .ofRunning ([.primary, .invoker] ++ if gateway.isSome then [.gateway] else []))
      (fun f after => ¬ m.ServesGateway c p primary ∧ f.early = false ∧ ∀ k, (after k).released) := by
  unfold withGateway
  cases henabled : c.server.http.enabled with
  | false => exact .pure ⟨fun h => absurd (henabled.symm.trans h) nofun, rfl, rfl⟩
  | true =>
    refine .bind (.orElseDo (ensures_startGateway host htls rfl) ?_) (fun _ _ h => h) ?_
    · rintro f _ ⟨hserves, hlate, rfl⟩
      refine ⟨_, rfl, fun h => hserves (h henabled), hlate, ?_⟩
      intro k
      cases k <;> rfl
    · rintro endpoint _ ⟨hdial, hopened, rfl⟩
      refine .pure ⟨fun _ => ⟨hdial, by rw [hopened]; rfl⟩, rfl, ?_⟩
      funext k
      cases k <;> rfl

/-- The profiler is started if it is enabled and its listener can be opened, or no server stays. -/
theorem ensures_withProfiler (gateway : Option Endpoint) :
    (withProfiler m c gateway).Ensures
      (.ofRunning ([.primary, .invoker] ++ if gateway.isSome then [.gateway] else []))
      (fun profiler after => m.ServesProfiler c
        ∧ profiler.isSome = (c.profiler.enabled && (m.binding c .profiler).isOpen)
        ∧ after = .ofRunning ([.primary, .invoker] ++ (if gateway.isSome then [.gateway] else [])
            ++ if profiler.isSome then [.profiler] else []))
      (fun f after => ¬ m.ServesProfiler c ∧ f.early = false ∧ ∀ k, (after k).released) := by
  unfold withProfiler
  cases henabled : c.profiler.enabled with
  | false =>
    refine .pure ⟨fun h => absurd (henabled.symm.trans h) nofun, rfl, ?_⟩
    exact congrArg Holdings.ofRunning (List.append_nil _).symm
  | true =>
    have hprofiler : Holdings.ofRunning ([.primary, .invoker]
        ++ if gateway.isSome then [.gateway] else []) .profiler = .nothing := by
      cases gateway <;> rfl
    refine .mono (.orElseDo (ensures_startProfiler host hprofiler) ?_) ?_ (fun _ _ h => h)
    · rintro f _ ⟨hserves, hlate, rfl⟩
      cases gateway with
      | none =>
        refine ⟨_, rfl, fun h => hserves (h henabled), hlate, ?_⟩
        intro k
        cases k <;> rfl
      | some endpoint =>
        refine ⟨_, rfl, fun h => hserves (h henabled), hlate, ?_⟩
        intro k
        cases k <;> rfl
    · rintro profiler _ ⟨hserves, hopen, rfl⟩
      refine ⟨fun _ => hserves, hopen, ?_⟩
      funext k
      cases gateway <;> cases profiler <;> cases k <;> rfl

/-- All servers that the settings ask for are started, or no server stays. -/
theorem ensures_launch (htls : takeUp p.httpTls = .ok ()) :
    (launch m c p).Ensures .none
      (fun set after => m.Launches c p ∧ set.phase = .binding
        ∧ (∀ k, k ∈ set.running ↔ m.Runs c k) ∧ after = .ofRunning set.running)
      (fun f after => ¬ m.Launches c p ∧ f.early = false ∧ ∀ k, (after k).released) := by
  unfold launch
  refine .bind (ensures_startRpc host) ?_ ?_
  · rintro f _ ⟨hclosed, hlate, rfl⟩
    refine ⟨?_, hlate, fun k => rfl⟩
    rintro ⟨primary, hprimary, hinvoker, -⟩
    rcases hclosed with hclosed | hclosed
    · rw [hclosed] at hprimary; cases hprimary
    · rw [hclosed] at hinvoker; cases hinvoker
  rintro ⟨primary, invoker⟩ _ ⟨hprimary, hinvoker, rfl⟩
  have haddress : ∀ other, (m.binding c .primary).address? = some other → primary = other := by
    intro other hother
    rw [hprimary] at hother
    exact Option.some.inj hother
  refine .bind (ensures_withGateway host htls) ?_ ?_
  · rintro f after ⟨hserves, hlate, hreleased⟩
    refine ⟨?_, hlate, hreleased⟩
    rintro ⟨other, hother, -, hgateway, -⟩
    exact hserves (haddress other hother ▸ hgateway)
  rintro gateway _ ⟨hgateway, henabled, rfl⟩
  -- From here on only the profiler can fail, and not because its listener is refused.
  refine .bind (ensures_withProfiler host gateway) ?_ ?_
  · rintro f after ⟨hserves, hlate, hreleased⟩
    exact ⟨fun hlaunches => hserves hlaunches.choose_spec.2.2.2, hlate, hreleased⟩
  rintro profiler _ ⟨hprofiler, hopen, rfl⟩
  refine .pure ⟨⟨primary, by rw [hprimary]; rfl, by rw [hinvoker]; rfl, hgateway, hprofiler⟩, rfl,
    ?_, rfl⟩
  intro k
  show k ∈ [Kind.primary, .invoker] ++ (if gateway.isSome then [.gateway] else [])
    ++ (if profiler.isSome then [.profiler] else []) ↔ _
  rw [henabled, hopen]
  cases k with
  | primary => simp [Machine.Runs]
  | invoker => simp [Machine.Runs]
  | gateway => simp [Machine.Runs]
  | profiler => simp [Machine.Runs]

end Listeners

/-! ### Checking the settings -/

section Preparing

variable {m : Machine} {c : Config} {p : Prepared}

/-- Credentials that were loaded are as good when they are taken into use. -/
theorem check_of_ofPem {certificates key : List UInt8} {name : String} {found : Tls.Credentials}
    (h : Tls.Credentials.ofPem certificates key name = .ok found) : found.check = .ok () := by
  obtain ⟨chain, -, h⟩ := bind_eq_ok_iff.mp h
  cases chain with
  | nil => cases h
  | cons leaf rest =>
    obtain ⟨⟨form, bytes⟩, -, h⟩ := bind_eq_ok_iff.mp h
    obtain ⟨⟨⟩, hkey, h⟩ := bind_eq_ok_iff.mp h
    cases h
    exact hkey

/-- Credentials that can be loaded can be used. -/
theorem takeUp_of_loadTls {s : Config.Tls} {tls : Option Tls.Credentials}
    (h : loadTls m s = .ok tls) : takeUp tls = .ok () := by
  have hload := mapError_eq_ok_iff.mp h
  unfold Tls.Credentials.load at hload
  split at hload
  · obtain ⟨certificates, -, hload⟩ := bind_eq_ok_iff.mp hload
    obtain ⟨key, -, hload⟩ := bind_eq_ok_iff.mp hload
    obtain ⟨found, hfound, hload⟩ := bind_eq_ok_iff.mp hload
    cases hload
    rw [takeUp, check_of_ofPem hfound]
    rfl
  · cases hload
    rfl

/-- What was prepared does not fail later for its credentials. -/
theorem takeUp_of_prepare (h : prepare m c = .ok p) : takeUp p.httpTls = .ok () := by
  unfold prepare at h
  split at h
  · cases h
  · obtain ⟨authenticator, -, h⟩ := bind_eq_ok_iff.mp h
    obtain ⟨rpcTls, -, h⟩ := bind_eq_ok_iff.mp h
    dsimp only at h
    split at h
    · obtain ⟨httpTls, hload, h⟩ := bind_eq_ok_iff.mp h
      obtain ⟨cors, -, h⟩ := bind_eq_ok_iff.mp h
      cases h
      exact takeUp_of_loadTls hload
    · cases h
      rfl

/-- Settings that name no address fail before anything is done. -/
theorem launch_of_no_host (host : Address.parse? c.server.host = none) :
    (launch m c p).run [] = (.error (.settings (badHost c.server.host)), []) := by
  have hendpoint : endpointOf c .primary = .error (.settings (badHost c.server.host)) := by
    rw [endpointOf_eq, host]
  rw [launch, startRpc, openListener, hendpoint]
  rfl

end Preparing

/-! ### Starting -/

/-- Whether the servers can be started: the settings are fine, and so is the machine. -/
def Machine.Starts (m : Machine) (c : Config) : Prop :=
  ∃ p, prepare m c = .ok p ∧ m.Launches c p

/-- What a failed start leaves behind. -/
structure LeavesNothing (s : Start) (f : Failure) : Prop where
  /-- All that was done made sense, and no listener and no server stays. -/
  released : ∃ held, holdings s.actions = some held ∧ ∀ k, (held k).released
  /-- A failure that must come early comes before anything is done. -/
  early : f.early → s.actions = []
  phases : s.phases = [.initializing, .failed] ∨ s.phases = [.initializing, .binding, .failed]

/-- What a successful start leaves behind. -/
structure LeavesRunning (m : Machine) (c : Config) (s : Start) (set : ServerSet) : Prop where
  serving : set.phase = .serving
  running : ∀ k, k ∈ set.running ↔ m.Runs c k
  /-- Exactly the servers that run are held, each with its listener. -/
  held : holdings s.actions = some (.ofRunning set.running)
  phases : s.phases = [.initializing, .binding, .serving]

section Outcomes

variable {m : Machine} {c : Config} {p : Prepared} {f : Failure} {set : ServerSet} {actions : List Action}

/-- A start that cannot be prepared fails before it opens anything. -/
theorem start_of_unprepared (h : prepare m c = .error f) :
    start m c = ⟨.error f, [.initializing, .failed], []⟩ := by
  unfold start
  rw [h]
  rfl

/-- A start that fails later has been prepared, and has begun to open listeners. -/
theorem start_of_failed (h : prepare m c = .ok p) (hrun : (launch m c p).run [] = (.error f, actions)) :
    start m c = ⟨.error f, [.initializing, .binding, .failed], actions⟩ := by
  unfold start
  rw [h]
  dsimp only
  rw [hrun]
  rfl

/-- A start whose servers are launched succeeds, and they are serving. -/
theorem start_of_launched (h : prepare m c = .ok p) (hrun : (launch m c p).run [] = (.ok set, actions))
    (hphase : set.phase = .binding) :
    start m c = ⟨.ok { set with phase := .serving }, [.initializing, .binding, .serving], actions⟩ := by
  have hserving : set.phase.become .serving = .serving := by rw [hphase]; rfl
  unfold start
  rw [h]
  dsimp only
  rw [hrun]
  dsimp only
  rw [hserving]
  rfl

end Outcomes

/-- A start fails and leaves nothing, or succeeds and leaves what is asked for. -/
theorem failed_or_started (m : Machine) (c : Config) :
    (∃ f, (start m c).result = .error f ∧ ¬ m.Starts c ∧ LeavesNothing (start m c) f)
    ∨ ∃ set, (start m c).result = .ok set ∧ m.Starts c ∧ LeavesRunning m c (start m c) set := by
  cases hprepare : prepare m c with
  | error f =>
    rw [start_of_unprepared hprepare]
    refine .inl ⟨f, rfl, ?_, ⟨.none, rfl, fun _ => rfl⟩, fun _ => rfl, .inl rfl⟩
    rintro ⟨p, hp, -⟩
    rw [hprepare] at hp
    cases hp
  | ok p =>
    have hstarts : m.Starts c ↔ m.Launches c p :=
      ⟨fun ⟨q, hq, h⟩ => by rw [hprepare] at hq; cases hq; exact h, fun h => ⟨p, hprepare, h⟩⟩
    cases host : Address.parse? c.server.host with
    | none =>
      -- The host is read only for the first listener, but before it is opened.
      rw [start_of_failed hprepare (launch_of_no_host host)]
      refine .inl ⟨_, rfl, ?_, ⟨.none, rfl, fun _ => rfl⟩, fun _ => rfl, .inr rfl⟩
      rw [hstarts]
      rintro ⟨primary, hprimary, -⟩
      have hclosed : (m.binding c .primary).isOpen = false := by
        unfold Machine.binding
        rw [endpointOf_eq, host]
        rfl
      rw [Binding.address?_of_closed hclosed] at hprimary
      cases hprimary
    | some a =>
      have hhost : (Address.parse? c.server.host).isSome := by rw [host]; rfl
      obtain ⟨after, hafter, hlaunch⟩ :=
        ensures_launch (m := m) hhost (takeUp_of_prepare hprepare) [] rfl
      cases hrun : (launch m c p).run [] with
      | mk result actions =>
        rw [hrun] at hafter hlaunch
        cases result with
        | error f =>
          obtain ⟨hnot, hlate, hreleased⟩ := hlaunch
          rw [start_of_failed hprepare hrun]
          refine .inl ⟨f, rfl, hstarts.not.mpr hnot, ⟨after, hafter, hreleased⟩, ?_, .inr rfl⟩
          intro hearly
          rw [hlate] at hearly
          cases hearly
        | ok set =>
          obtain ⟨hlaunches, hphase, hruns, rfl⟩ := hlaunch
          rw [start_of_launched hprepare hrun hphase]
          exact .inr ⟨_, rfl, hstarts.mpr hlaunches, rfl, hruns, hafter, rfl⟩

/-- **Starting is all or nothing.** On every machine and for all settings: a start succeeds exactly if
    the settings are fine and every listener that is asked for can be opened, but for a profiler that
    is refused; then exactly the servers that are asked for run. Otherwise all that was opened or
    started is given back, and what is wrong with settings, credentials or the issuer is told before
    anything is opened. The phases, up to those of a later shutdown, only follow each other as they
    may. -/
theorem starts_all_or_nothing (m : Machine) (c : Config) :
    ((∃ set, (start m c).result = .ok set) ↔ m.Starts c)
    ∧ (∀ f, (start m c).result = .error f → LeavesNothing (start m c) f)
    ∧ (∀ set, (start m c).result = .ok set → LeavesRunning m c (start m c) set)
    ∧ (start m c).phases.IsChain (fun p q => p.precedes q)
    ∧ ∀ set, (start m c).result = .ok set →
        ((start m c).phases ++ [set.phase.become .shuttingDown, set.afterStop.phase]).IsChain
          fun p q => p.precedes q := by
  rcases failed_or_started m c with ⟨f, hresult, hnot, hfailed⟩ | ⟨set, hresult, hstarts, hstarted⟩
  · have hno : ∀ set, (start m c).result ≠ .ok set := fun set hset => by
      rw [hresult] at hset
      cases hset
    refine ⟨iff_of_false (fun ⟨set, hset⟩ => hno set hset) hnot, ?_,
      fun set hset => absurd hset (hno set), ?_, fun set hset => absurd hset (hno set)⟩
    · intro g hg
      cases hresult.symm.trans hg
      exact hfailed
    · rcases hfailed.phases with h | h <;> rw [h] <;> decide
  · have hall : ∀ other, (start m c).result = .ok other → other = set := fun other hother => by
      cases hresult.symm.trans hother
      rfl
    refine ⟨iff_of_true ⟨set, hresult⟩ hstarts, fun f hf => ?_, fun other hother => ?_, ?_,
      fun other hother => ?_⟩
    · cases hresult.symm.trans hf
    · rw [hall other hother]
      exact hstarted
    · rw [hstarted.phases]
      decide
    · rw [hall other hother, hstarted.phases, ServerSet.afterStop, hstarted.serving]
      show List.IsChain _ [Phase.initializing, .binding, .serving, .shuttingDown, .stopped]
      decide

end Server

end Rebac
