import Rebac.Proofs.Config.Check
import Rebac.Proofs.Server.Shutdown
import Rebac.Proofs.Server.Start
import Rebac.Token.BuiltIn

namespace Rebac.Server

open Rebac.Config

/-!
# Time to stop

How long the servers of a successful start may take to stop, and whether one that ends at once can be
given up nevertheless.

* `accepted_of_started`, `shutdown_of_started` — the settings of a successful start are accepted, and
  its servers are stopped with the bounds of these settings.
* `GivesTime` — a bound that is not zero, or none; `givesTime_of_ne_profiler` says that the settings see
  to it for every server but the profiler.
* `Stop.Waits` — a server is not given up before its bound has passed; `Waits.prompt` says that one that
  is given time and ends within a second is not given up.
* `given_time_iff` — **the profiler is given time just if the gateway runs as well or the time is not
  zero**; `prompt_profiler_given_up` is a profiler that is not.
-/

variable {m : Machine} {c : Config} {set : ServerSet} {k : Kind}

/-! ### What a successful start takes from the settings -/

/-- What comes after a part succeeds only if the part and the rest do. -/
theorem Launching.ok_of_bind {α β : Type} (part : Launching α) {next : α → Launching β} {b : β}
    {done after : List Action} (h : (part >>= next).run done = (.ok b, after)) :
    ∃ a between, (next a).run between = (.ok b, after) := by
  have hrun : (part >>= next).run done
      = ExceptT.bindCont next (part.run done).1 (part.run done).2 := rfl
  rw [hrun] at h
  cases hresult : (part.run done).1 with
  | ok a =>
    rw [hresult] at h
    exact ⟨a, _, h⟩
  | error f =>
    rw [hresult] at h
    cases h

/-- A start succeeds only with settings that can be prepared, and with what a launch gives. -/
theorem launched_of_started (started : (start m c).result = .ok set) :
    ∃ p launched actions, prepare m c = .ok p ∧ (launch m c p).run [] = (.ok launched, actions)
      ∧ set.shutdown = launched.shutdown := by
  unfold start at started
  split at started
  · cases started
  · next p hprepare =>
    dsimp only at started
    split at started
    · cases started
    · next launched actions hlaunch =>
      cases started
      exact ⟨p, launched, actions, hprepare, hlaunch, rfl⟩

/-- Only settings without a problem can be started with. -/
theorem accepted_of_started (started : (start m c).result = .ok set) : problem? c = none := by
  obtain ⟨p, -, -, hprepare, -⟩ := launched_of_started started
  unfold prepare at hprepare
  split at hprepare
  · cases hprepare
  · assumption

/-- The servers are stopped with the bounds of the settings. -/
theorem shutdown_of_started (started : (start m c).result = .ok set) :
    set.shutdown = c.server.shutdown := by
  obtain ⟨p, launched, actions, -, hlaunch, hset⟩ := launched_of_started started
  obtain ⟨⟨primary, invoker⟩, _, hgateway⟩ := Launching.ok_of_bind (startRpc m c) hlaunch
  obtain ⟨gateway, _, hprofiler⟩ := Launching.ok_of_bind (withGateway m c p primary) hgateway
  obtain ⟨profiler, _, hset'⟩ := Launching.ok_of_bind (withProfiler m c gateway) hprofiler
  cases hset'
  exact hset

/-- The gateway runs just if it is enabled. -/
theorem gateway_mem_running_iff (started : (start m c).result = .ok set) :
    .gateway ∈ set.running ↔ c.server.http.enabled := by
  rcases failed_or_started m c with ⟨f, hfailed, -⟩ | ⟨other, hstarted, -, hrunning⟩
  · cases hfailed.symm.trans started
  · cases hstarted.symm.trans started
    exact hrunning.running .gateway

/-! ### Bounds that are not zero -/

/-- A server is waited for without a bound, or with one that is not zero. -/
def GivesTime (bound : Option UInt64) : Prop :=
  ∀ n, bound = some n → 0 < n

/-- The RPC servers are given time in any case: a grace period of zero is no bound. -/
theorem givesTime_grace (s : Config.Shutdown) : GivesTime s.grace := by
  intro n hn
  unfold Config.Shutdown.grace at hn
  split at hn
  · next hpositive =>
    cases hn
    exact hpositive
  · cases hn

/-- The gateway and the profiler are given time just if the settings name any. -/
theorem givesTime_http_iff {n : UInt64} : GivesTime (some n) ↔ n ≠ 0 := by
  constructor
  · rintro h rfl
    exact absurd (h 0 rfl) (by decide)
  · rintro h _ ⟨⟩
    exact UInt64.pos_iff_ne_zero.mpr h

/-- **Settings that are accepted give time to every server but the profiler.** -/
theorem givesTime_of_ne_profiler (started : (start m c).result = .ok set) (running : k ∈ set.running)
    (other : k ≠ .profiler) : GivesTime (boundOf set.shutdown k) := by
  have hsound : Sound c := problem?_eq_none_iff.mp (accepted_of_started started)
  rw [shutdown_of_started started]
  cases k with
  | primary => exact givesTime_grace _
  | invoker => exact givesTime_grace _
  | gateway =>
    exact givesTime_http_iff.mpr (hsound.httpTimeout ((gateway_mem_running_iff started).mp running))
  | profiler => exact absurd rfl other

/-! ### Servers that are given up -/

/-- A second in nanoseconds. -/
def second : Nat := 10 ^ 9

/-- A server that has ended so many nanoseconds after it was asked is given up only if it had not ended
    before, and not before its bound has passed. -/
def Stop.Waits {bound : Option UInt64} (stop : Stop bound) (nanos : Nat) : Prop :=
  stop.ending = .late → 0 < nanos ∧ ∃ n, bound = some n ∧ n.toNat * second ≤ nanos

/-- A server that is given time, and ends within a second, is not given up. -/
theorem Stop.Waits.prompt {bound : Option UInt64} {stop : Stop bound} {nanos : Nat}
    (h : stop.Waits nanos) (time : GivesTime bound) (prompt : nanos < second) :
    stop.ending ≠ .late := by
  intro hlate
  obtain ⟨-, n, hbound, hpassed⟩ := h hlate
  have hpositive : 0 < n.toNat := UInt64.lt_iff_toNat_lt.mp (time n hbound)
  have hsecond : second ≤ n.toNat * second := Nat.le_mul_of_pos_left second hpositive
  omega

/-- The profiler is given up, and all others end as they should. -/
def profilerGivenUp (s : ServerSet) : s.Stops
  | .profiler => ⟨.late, false, fun _ => rfl⟩
  | .primary | .invoker | .gateway => ⟨.clean, false, nofun⟩

/-- Without time, the profiler may be given up however soon it ends. -/
theorem waits_profilerGivenUp {s : ServerSet} (h : s.shutdown.httpTimeoutSecs = 0) (k : Kind) :
    (profilerGivenUp s k).Waits 1 := by
  intro hlate
  cases k with
  | profiler =>
    refine ⟨Nat.one_pos, 0, congrArg some h, ?_⟩
    rw [UInt64.toNat_zero, Nat.zero_mul]
    exact Nat.zero_le 1
  | _ => cases hlate

/-! ### All servers of a start -/

/-- **Which servers are given time to stop.** After a successful start, so with settings that are
    accepted:

    * every server but the profiler is waited for without a bound or with one that is not zero;
    * so is the profiler, if it runs, just if the gateway runs as well or the time is not zero;
    * under the same condition, and only then, no server that ends within a second is ever given up, as
      long as none is given up before its bound has passed. -/
theorem given_time_iff (started : (start m c).result = .ok set) :
    problem? c = none
    ∧ (∀ k ∈ set.running, k ≠ .profiler → GivesTime (boundOf set.shutdown k))
    ∧ ((∀ k ∈ set.running, GivesTime (boundOf set.shutdown k))
        ↔ (.profiler ∈ set.running → .gateway ∉ set.running →
            c.server.shutdown.httpTimeoutSecs ≠ 0))
    ∧ ((∀ (stops : set.Stops) (nanos : Kind → Nat), (∀ k, (stops k).Waits (nanos k)) →
          ∀ k ∈ set.running, nanos k < second → (stops k).ending ≠ .late)
        ↔ (.profiler ∈ set.running → .gateway ∉ set.running →
            c.server.shutdown.httpTimeoutSecs ≠ 0)) := by
  have hshutdown := shutdown_of_started started
  have hothers : ∀ k ∈ set.running, k ≠ .profiler → GivesTime (boundOf set.shutdown k) :=
    fun k hk hne => givesTime_of_ne_profiler started hk hne
  have hprofiler : (.profiler ∈ set.running → .gateway ∉ set.running →
      c.server.shutdown.httpTimeoutSecs ≠ 0) → ∀ k ∈ set.running, GivesTime (boundOf set.shutdown k) := by
    intro h k hk
    by_cases hne : k = .profiler
    · subst hne
      by_cases hgateway : .gateway ∈ set.running
      · -- The gateway has the same bound, and it is checked for the gateway.
        exact hothers .gateway hgateway nofun
      · rw [hshutdown]
        exact givesTime_http_iff.mpr (h hk hgateway)
    · exact hothers k hk hne
  refine ⟨accepted_of_started started, hothers, ⟨fun h hrunning _ => ?_, hprofiler⟩,
    ⟨fun h hrunning _ hzero => ?_, fun h stops nanos hwaits k hk hprompt => ?_⟩⟩
  · have htime := h .profiler hrunning
    rw [hshutdown] at htime
    exact givesTime_http_iff.mp htime
  · rw [← hshutdown] at hzero
    exact h (profilerGivenUp set) (fun _ => 1) (waits_profilerGivenUp hzero) .profiler hrunning
      (by decide) rfl
  · exact (hwaits k).prompt (hprofiler h k hk) hprompt

/-- A machine on which every listener can be opened. -/
def willing : Machine where
  files _ := .error ""
  document := .unreachable
  keySet _ := .unreachable
  tokens := .builtIn
  bind _ endpoint := .opened (.ok endpoint)
  dial _ _ := .ok ()

/-- Settings with a profiler and without a gateway, whose time to stop is zero. -/
def hasty : Config where
  server := { http := { enabled := false }, shutdown := { httpTimeoutSecs := 0 } }
  profiler := { enabled := true }

/-- These settings are accepted, and the profiler is started. -/
theorem hasty_started : ∃ set, (start willing hasty).result = .ok set
    ∧ set.running = [.primary, .invoker, .profiler] ∧ set.phase = .serving := by
  have hrun : ((start willing hasty).result.toOption.any fun set =>
      set.running = [.primary, .invoker, .profiler] && set.phase = .serving) = true := by
    decide +kernel
  cases hresult : (start willing hasty).result with
  | error f => simp [hresult, Except.toOption] at hrun
  | ok set => exact ⟨set, rfl, by simpa [hresult, Except.toOption] using hrun⟩

/-- With these settings the RPC servers are given time, and the profiler is not. -/
theorem given_time_iff_hasty :
    ∃ set, (start willing hasty).result = .ok set
      ∧ (∀ k ∈ set.running, k ≠ .profiler → GivesTime (boundOf set.shutdown k))
      ∧ ¬ ∀ k ∈ set.running, GivesTime (boundOf set.shutdown k) := by
  obtain ⟨set, hstarted, hrunning, -⟩ := hasty_started
  obtain ⟨-, hothers, htime, -⟩ := given_time_iff hstarted
  refine ⟨set, hstarted, hothers, fun h => ?_⟩
  exact htime.mp h (by simp [hrunning]) (by simp [hrunning]) rfl

/-- **Settings are accepted that give the profiler no time**: it is stopped with a bound of zero, and
    reported as given up although every server has ended a nanosecond after it was asked. -/
theorem prompt_profiler_given_up :
    problem? hasty = none
    ∧ ∃ set stops, (start willing hasty).result = .ok set ∧ .profiler ∈ set.running
      ∧ boundOf set.shutdown .profiler = some 0 ∧ (∀ k, Stop.Waits (stops k) 1)
      ∧ (set.stopAll stops []).1
        = .error (.shutdown ["profiler server did not stop within 0ns"]) := by
  obtain ⟨set, hstarted, hrunning, hphase⟩ := hasty_started
  have hshutdown : set.shutdown = hasty.server.shutdown := shutdown_of_started hstarted
  have hzero : set.shutdown.httpTimeoutSecs = 0 := by rw [hshutdown]; rfl
  have hbound : boundOf set.shutdown .profiler = some 0 := congrArg some hzero
  have hlate : set.failures (profilerGivenUp set) = ["profiler server did not stop within 0ns"] := by
    have hthree : ServerSet.stopOrder.filter (· ∈ set.running) = [.primary, .invoker, .profiler] := by
      rw [hrunning]
      decide
    have hprofiler : set.failureOf? (profilerGivenUp set) .profiler
        = some "profiler server did not stop within 0ns" := by
      simp only [ServerSet.failureOf?, profilerGivenUp, Ending.failure?, hbound]
      rfl
    rw [ServerSet.failures, hthree, List.filterMap_cons_none rfl, List.filterMap_cons_none rfl,
      List.filterMap_cons_some hprofiler, List.filterMap_nil]
  refine ⟨accepted_of_started hstarted, set, profilerGivenUp set, hstarted, by simp [hrunning], hbound,
    waits_profilerGivenUp hzero, ?_⟩
  rw [ServerSet.stopAll_of_ne (by simp [hphase]), hlate]
  rfl

end Rebac.Server
