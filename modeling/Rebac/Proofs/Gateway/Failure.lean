import Rebac.Proofs.Gateway.Answer
import Rebac.Proofs.Service.Failure

namespace Rebac.Gateway

open Rebac.Http Rebac.Service Rebac.Store

/-!
# Failures are without effect

A process is reached through its services and through its gateway. Whichever way a call comes in, one
that fails changes nothing for anybody else.

* `Effect` — what a request to the gateway may do: nothing, or what one call does whose outcome it
  shows; `effect_answer` says that every request does one of the two.
* `Access`, `Access.on` — what reaches a process, and what becomes of the services and their feeds.
* `kept_access`, `kept_run`, `health_reply` — what an access that fails, and a run of them, leave alone.
* `failed_call_changes_nothing` — **a failed call changes nothing**, nor does any number of them.
-/

/-! ### Requests -/

/-- A reply of the gateway that has done nothing, or has done what a single call does and shows how it
    ended. -/
inductive Effect (e : Evaluator) (around : Surroundings) (p : Primary) (reply : Response × Primary) :
    Prop
  | nothing (state : reply.2 = p)
  | call (metadata : Metadata) (r : Rpc) (m : r.Request)
      (state : reply.2 = { p with backend := (p.backend.call e around metadata r m).2 })
      (status : reply.1.status
        = (outcomeResponse r (p.backend.call e around metadata r m).1).status)

section

variable (e : Evaluator) (around : Surroundings) (p : Primary) (q : Request)

/-- A request for a call makes it once at most. -/
theorem effect_answerCall (r : Rpc) (tenant : Option String) :
    Effect e around p (answerCall (.ofServices e around) p r tenant q) := by
  unfold answerCall
  split
  · exact .nothing rfl
  · split
    · exact .nothing rfl
    · next m _ => exact .call (credentialOf q.headers) r m rfl rfl

/-- A request on any path makes a single call at most. -/
theorem effect_answerRouted : Effect e around p (answerRouted (.ofServices e around) q p) := by
  unfold answerRouted
  split
  · exact .nothing rfl
  · exact .nothing rfl
  · exact .nothing rfl
  · exact effect_answerCall e around p q _ none
  · next r segment _ =>
    -- The segment of the path that stands for the tenant may be no text.
    cases percentDecoded segment with
    | none => exact .nothing rfl
    | some tenant => exact effect_answerCall e around p q r (some tenant)

/-- **A request has no effect, or that of a single call**, whatever its path and its method. -/
theorem effect_answer (policy : Cors) :
    Effect e around p (answer policy (.ofServices e around) q p) := by
  have haround : Effect e around p (policy.around (answerRouted (.ofServices e around)) q p) := by
    unfold Cors.around
    split
    · exact .nothing rfl
    · -- The policy only adds headers.
      cases effect_answerRouted e around p q with
      | nothing state => exact .nothing state
      | call metadata r m state status => exact .call metadata r m state status
  cases haround with
  | nothing state => exact .nothing state
  | call metadata r m state status => exact .call metadata r m state status

end

/-! ### Accesses -/

/-- What reaches a process: something at its services, or a request to its gateway. -/
inductive Access where
  | services (event : Session.Event)
  | gateway (q : Request) (around : Surroundings)

namespace Access

variable (policy : Cors) (health : Server.Health) (e : Evaluator)

/-- The reply to a request to the gateway. -/
def reply (s : Session) (q : Request) (around : Surroundings) : Response × Primary :=
  answer policy (.ofServices e around) q ⟨s.backend, health⟩

/-- What becomes of the services and their feeds. -/
def on (s : Session) : Access → Session
  | services event => s.step e event
  | gateway q around => { s with backend := (reply policy health e s q around).2.backend }

/-- Whether an access fails: the call is answered with a failure, or the request not with success. -/
def Fails (s : Session) : Access → Prop
  | services event => s.Fails e event
  | gateway q around => (reply policy health e s q around).1.status ≠ 200

/-- Whether every access of a run fails in its turn. -/
def AllFail (s : Session) : List Access → Prop
  | [] => True
  | access :: rest => Fails policy health e s access ∧ AllFail (on policy health e s access) rest

end Access

variable {policy : Cors} {health : Server.Health} {e : Evaluator} {s : Session}

/-- **An access that fails changes nothing.** -/
theorem kept_access {access : Access} (h : access.Fails policy health e s) :
    s.Kept (access.on policy health e s) := by
  cases access with
  | services event => exact Session.kept_step h
  | gateway q around =>
    have heffect := effect_answer e around ⟨s.backend, health⟩ q policy
    unfold Access.on Access.reply
    dsimp only
    cases heffect with
    | nothing state =>
      rw [state]
      exact .refl s
    | call metadata r m state status =>
      -- A call that is answered shows success, so this one failed.
      have hfailed : ∃ failure, (s.backend.call e around metadata r m).1 = .failure failure := by
        cases houtcome : (s.backend.call e around metadata r m).1 with
        | answer a =>
          rw [houtcome] at status
          exact absurd status h
        | failure failure => exact ⟨failure, rfl⟩
        | breakdown => exact absurd houtcome (run_ne_breakdown _ _)
      obtain ⟨failure, hfailure⟩ := hfailed
      rw [state]
      exact Session.kept_call hfailure

/-- **A run of accesses that fail changes nothing**: what every access keeps is kept by all. -/
theorem kept_run {run : List Access} (h : Access.AllFail policy health e s run) :
    s.Kept (run.foldl (Access.on policy health e) s) := by
  induction run generalizing s with
  | nil => exact .refl s
  | cons access rest ih =>
    obtain ⟨hfirst, hrest⟩ := h
    exact (kept_access hfirst).trans (ih hrest)

/-- No request changes the health that the gateway shows. -/
theorem health_reply (policy : Cors) (health : Server.Health) (e : Evaluator) (s : Session) (q : Request)
    (around : Surroundings) : (Access.reply policy health e s q around).2.health = health := by
  have heffect := effect_answer e around ⟨s.backend, health⟩ q policy
  unfold Access.reply
  cases heffect with
  | nothing state => rw [state]
  | call metadata r m state status => rw [state]

/-- **A failed call changes nothing.** In any state of the services, behind any gate and with any
    evaluator, a call that is answered with a failure and a request to the gateway that is not answered
    with success leave the store, the feeds and what they deliver as they were. No feed is opened, and
    the authenticator is what it was, but for the key set of an issuer. The same holds of any run of
    such accesses, and no request, whether it fails or not, changes the health that is shown. -/
theorem failed_call_changes_nothing (policy : Cors) (health : Server.Health) (e : Evaluator)
    (s : Session) :
    (∀ access : Access, access.Fails policy health e s →
      s.Kept (access.on policy health e s)
        ∧ ∀ name, (access.on policy health e s).yields (.poll name) = s.yields (.poll name))
    ∧ (∀ run : List Access, Access.AllFail policy health e s run →
        let s' := run.foldl (Access.on policy health e) s
        s.Kept s' ∧ ∀ name, s'.yields (.poll name) = s.yields (.poll name))
    ∧ ∀ q around, (Access.reply policy health e s q around).2.health = health := by
  refine ⟨?_, ?_, health_reply policy health e s⟩
  · intro access fails
    have hkept := kept_access fails
    exact ⟨hkept, fun name => hkept.yields (.poll name)⟩
  · intro run fails s'
    have hkept : s.Kept s' := kept_run fails
    exact ⟨hkept, fun name => hkept.yields (.poll name)⟩

/-! ### A feed between failures -/

/-- Services with an open feed that has not been looked at since a document was shared. -/
def unread : Session :=
  office.after .breaking opening

/-- A tenant is registered again, one that is not registered is removed over HTTP, and a question is
    asked of an evaluator that breaks down. -/
def mishaps : List Access :=
  let around : Surroundings := ⟨⟨0, .unreachable⟩, ⟨0, ""⟩⟩
  [.services (.call .createTenant ⟨"t1", "again"⟩ around []),
    .gateway ⟨"DELETE", "/v1/tenants/t9", "", [], []⟩ around,
    .services (.call .check
      ⟨"t1", some ⟨"", "", 20⟩, some ⟨"document", "1"⟩, "view", some ⟨"user", "alice", ""⟩⟩ around [])]

/-- All of them take a permit and fail, and the feed still holds what it held. -/
theorem failed_call_changes_nothing_mishaps :
    let policy : Cors := ⟨.asked, .asked⟩
    let s' := mishaps.foldl (Access.on policy .empty .breaking) unread
    unread.Kept s'
      ∧ s'.yields (.poll "a")
        = [⟨"a", "t1", [.ok ⟨some ⟨"1", [⟨.create, some (viewing "1")⟩]⟩⟩]⟩]
      ∧ s'.backend.gate.limiter.admitted = unread.backend.gate.limiter.admitted + 3 := by
  intro policy s'
  have hfail : Access.AllFail policy .empty .breaking unread mishaps :=
    ⟨⟨_, rfl⟩, show _ ≠ 200 by decide, ⟨_, rfl⟩, trivial⟩
  obtain ⟨hkept, hfeeds⟩ :=
    (failed_call_changes_nothing policy .empty .breaking unread).2.1 mishaps hfail
  have hheld : unread.yields (.poll "a")
      = [⟨"a", "t1", [.ok ⟨some ⟨"1", [⟨.create, some (viewing "1")⟩]⟩⟩]⟩] := rfl
  exact ⟨hkept, (hfeeds "a").trans hheld, rfl⟩

end Rebac.Gateway
