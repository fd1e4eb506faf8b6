import Rebac.Service.Pipeline

namespace Rebac.Service

/-!
# One call through the stages

What a single call meets on its way to its handler, stage by stage, for any handler on any state.

* `Outcome.recovered` — an outcome as the caller sees it: a breakdown has become a failure.
* `Gate.consult` — what the authenticator of a gate says of a call; a gate without one lets every
  call pass.
* `run_of_violation`, `run_of_spent`, `run_of_refused`, `run_of_passed` — the four ways of a call.
  In the first three the state behind the gate stays as it is, and only in the last two does a
  permit go.
* `Limiter.Balanced` — the books of a limiter: what it has left, admitted and rejected, against its
  rate and the number of calls that asked.
-/

variable {σ α : Type}

/-! ### Outcomes -/

/-- The outcome that a caller sees. -/
def Outcome.recovered : Outcome α → Outcome α
  | breakdown => failure .brokenDown
  | other => other

@[simp] theorem Outcome.recovered_failure (s : Status) :
    (failure s : Outcome α).recovered = failure s := rfl

/-- The stage of recovery changes the outcome only. -/
theorem recovering_eq (next : Step σ α) (p : Gate × σ) :
    recovering next p = ((next p).1.recovered, (next p).2) := by
  unfold recovering
  rcases h : next p with ⟨outcome, rest⟩
  cases outcome <;> rfl

/-! ### The limiter -/

/-- A limiter with permits gives one of them. -/
theorem Limiter.acquire_of_left {l : Limiter} (h : 0 < l.left) :
    l.acquire = (true, { l with left := l.left - 1, admitted := l.admitted + 1 }) := by
  rw [Limiter.acquire, if_pos h]

/-- A limiter without permits only counts. -/
theorem Limiter.acquire_of_spent {l : Limiter} (h : l.left = 0) :
    l.acquire = (false, { l with rejected := l.rejected + 1 }) := by
  rw [Limiter.acquire, if_neg (by omega)]

/-- The books of a limiter of that rate after so many calls have asked it. -/
structure Limiter.Balanced (rate asked : Nat) (l : Limiter) : Prop where
  left_add_admitted : l.left + l.admitted = rate
  admitted_add_rejected : l.admitted + l.rejected = asked
  spent_of_rejected : 0 < l.rejected → l.left = 0

namespace Limiter.Balanced

variable {rate asked : Nat} {l : Limiter}

/-- A new limiter has been asked by nobody. -/
theorem ofRate (rate : Nat) : Balanced rate 0 (Limiter.ofRate rate) :=
  ⟨rfl, rfl, fun h => absurd h (by simp [Limiter.ofRate])⟩

/-- One more call has asked. -/
theorem acquire (h : Balanced rate asked l) : Balanced rate (asked + 1) l.acquire.2 := by
  obtain ⟨hleft, htotal, hspent⟩ := h
  by_cases hl : 0 < l.left
  · rw [acquire_of_left hl]
    refine ⟨?_, ?_, ?_⟩
    · show l.left - 1 + (l.admitted + 1) = rate
      omega
    · show l.admitted + 1 + l.rejected = asked + 1
      omega
    · intro hr
      have := hspent hr
      omega
  · rw [acquire_of_spent (by omega)]
    refine ⟨hleft, ?_, fun _ => by show l.left = 0; omega⟩
    show l.admitted + (l.rejected + 1) = asked + 1
    omega

/-- As many calls are admitted as have asked, up to the rate. -/
theorem admitted_eq (h : Balanced rate asked l) : l.admitted = min rate asked := by
  obtain ⟨hleft, htotal, hspent⟩ := h
  by_cases hr : 0 < l.rejected
  · have := hspent hr
    omega
  · omega

/-- The calls beyond the rate are rejected. -/
theorem rejected_eq (h : Balanced rate asked l) : l.rejected = asked - rate := by
  have := h.admitted_eq
  have := h.admitted_add_rejected
  omega

/-- The permits are used up exactly when the rate has been admitted. -/
theorem left_eq_zero_iff (h : Balanced rate asked l) : l.left = 0 ↔ l.admitted = rate := by
  have := h.left_add_admitted
  omega

end Limiter.Balanced

/-! ### The authenticator -/

/-- What the authenticator of a gate says of a call, and the authenticator afterwards. Without an
    authenticator nothing is refused; with one, a call needs a credential that it accepts. -/
def Gate.consult (g : Gate) (c : Call) :
    Except Credential.Refusal Unit × Option Credential.Authenticator :=
  match g.authenticator with
  | none => (.ok (), none)
  | some a =>
    match Credential.ofMetadata c.metadata with
    | .error refusal => (.error refusal, some a)
    | .ok credential => ((a.validate c.moment credential).1, some (a.validate c.moment credential).2)

/-- Asking an authenticator does not take it away. -/
theorem Gate.isSome_consult (g : Gate) (c : Call) :
    (g.consult c).2.isSome = g.authenticator.isSome := by
  unfold Gate.consult
  cases g.authenticator with
  | none => rfl
  | some a => cases Credential.ofMetadata c.metadata <;> rfl

/-- A call whose credential is refused is not handled. -/
theorem authenticating_of_refused {g : Gate} {c : Call} {next : Step σ α} {s : σ}
    {refusal : Credential.Refusal} (h : (g.consult c).1 = .error refusal) :
    authenticating c next (g, s)
      = (.failure refusal.status, { g with authenticator := (g.consult c).2 }, s) := by
  obtain ⟨limiter, authenticator⟩ := g
  cases authenticator with
  | none => simp [Gate.consult] at h
  | some a =>
    cases hc : Credential.ofMetadata c.metadata with
    | error r =>
      simp only [Gate.consult, hc] at h
      cases h
      simp only [authenticating, Gate.consult, hc]
    | ok credential =>
      simp only [Gate.consult, hc] at h
      simp only [authenticating, Gate.consult, hc, h]

/-- A call whose credential is accepted goes on, and its keys may have been refreshed. -/
theorem authenticating_of_accepted {g : Gate} {c : Call} {next : Step σ α} {s : σ}
    (h : (g.consult c).1 = .ok ()) :
    authenticating c next (g, s) = next ({ g with authenticator := (g.consult c).2 }, s) := by
  obtain ⟨limiter, authenticator⟩ := g
  cases authenticator with
  | none => rfl
  | some a =>
    cases hc : Credential.ofMetadata c.metadata with
    | error r => simp [Gate.consult, hc] at h
    | ok credential =>
      simp only [Gate.consult, hc] at h
      simp only [authenticating, Gate.consult, hc, h]

/-! ### The four ways of a call -/

section Ways

variable {g : Gate} {c : Call} {handler : σ → Outcome α × σ} {s : σ}

/-- Whether or not there is a last stage, a call behind the limiter meets the authenticator. -/
theorem behind_auth_eq (g : Gate) (c : Call) (handler : σ → Outcome α × σ) (limiter : Limiter)
    (s : σ) :
    behind c handler (if g.authenticator.isSome then [.auth] else []) ({ g with limiter }, s)
      = authenticating c (behind c handler []) ({ g with limiter }, s) := by
  cases g.authenticator with
  | none => simp [behind, authenticating]
  | some a => simp [behind, Stage.around]

/-- **Validation comes first.** A call that breaks a rule touches nothing. -/
theorem run_of_violation {v : Rule.Violation} (h : c.violation = some v) :
    g.run c handler s = (.failure v.status, g, s) := by
  simp [Gate.run, Gate.stages, behind, Stage.around, h]

/-- A valid call meets the limiter before the authenticator and the handler. -/
theorem run_of_valid (h : c.violation = none) :
    g.run c handler s
      = recovering (limiting
          (behind c handler (if g.authenticator.isSome then [.auth] else []))) (g, s) := by
  simp [Gate.run, Gate.stages, behind, Stage.around, h]

/-- **The limiter comes second.** Without a permit a call is only counted. -/
theorem run_of_spent (h : c.violation = none) (hl : g.limiter.left = 0) :
    g.run c handler s = (.failure .overLimit, { g with limiter := g.limiter.acquire.2 }, s) := by
  rw [run_of_valid h, recovering_eq]
  simp [limiting, Limiter.acquire_of_spent hl]

/-- With a permit a call goes on to the authenticator. -/
theorem run_of_left (h : c.violation = none) (hl : 0 < g.limiter.left) :
    g.run c handler s
      = recovering (authenticating c (behind c handler []))
          ({ g with limiter := g.limiter.acquire.2 }, s) := by
  rw [run_of_valid h, recovering_eq, recovering_eq, ← behind_auth_eq]
  simp [limiting, Limiter.acquire_of_left hl]

/-- **The authenticator comes last.** A refused call has used a permit. -/
theorem run_of_refused {refusal : Credential.Refusal} (h : c.violation = none)
    (hl : 0 < g.limiter.left) (hc : (g.consult c).1 = .error refusal) :
    g.run c handler s
      = (.failure refusal.status, ⟨g.limiter.acquire.2, (g.consult c).2⟩, s) := by
  -- The verdict does not depend on the limiter.
  have hc' : (Gate.consult { g with limiter := g.limiter.acquire.2 } c).1 = .error refusal := hc
  rw [run_of_left h hl, recovering_eq, authenticating_of_refused hc']
  rfl

/-- **A call that passes all stages is handled**, and only its breakdown is changed. -/
theorem run_of_passed (h : c.violation = none) (hl : 0 < g.limiter.left)
    (hc : (g.consult c).1 = .ok ()) :
    g.run c handler s
      = ((handler s).1.recovered, ⟨g.limiter.acquire.2, (g.consult c).2⟩, (handler s).2) := by
  have hc' : (Gate.consult { g with limiter := g.limiter.acquire.2 } c).1 = .ok () := hc
  rw [run_of_left h hl, recovering_eq, authenticating_of_accepted hc']
  rfl

end Ways

end Rebac.Service
