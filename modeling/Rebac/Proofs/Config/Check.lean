import Rebac.Server.Start
import Mathlib.Data.List.Nodup

namespace Rebac.Config

open Rebac.Server

/-!
# Settings that are accepted

What is asked of settings, told of each setting by itself and of the servers by their kinds, and not of
the order in which it is checked.

* `wants` — the servers that settings ask for; `listeners_eq` says that these are the listeners that are
  compared.
* `Taken`, `FirstTaken` — a server whose port an earlier one has, and the first of them;
  `clash?_listeners_eq_some_iff` says that this is the listener that is found.
* `Tls.Complete`, `SoundApart`, `Sound` — what is asked of settings.
* `problem?_eq_none_iff` — settings have no problem just if they are sound.
* `accepted_iff_sound` — **settings are accepted just if they are sound, and if only their ports are not,
  the first listener whose port is taken is named**.
-/

variable {c : Config} {k j : Kind}

/-! ### The servers that settings ask for -/

/-- `true` iff settings ask for a server. -/
def wants (c : Config) : Kind → Bool
  | .primary | .invoker => true
  | .gateway => c.server.http.enabled
  | .profiler => c.profiler.enabled

/-- The setting that gives the port of a server. -/
def portSetting : Kind → String
  | .primary => "server.grpc.port"
  | .invoker => "distributed.port"
  | .gateway => "server.http.port"
  | .profiler => "profiler.port"

/-- The listener of a server. -/
def listenerOf (c : Config) (k : Kind) : Listener :=
  (portSetting k, portOf c k)

/-- The servers that stand before another in the list of all. -/
def earlier (k : Kind) : List Kind :=
  Kind.all.takeWhile (· ≠ k)

/-- The listeners that are compared are those of the servers that settings ask for, in the order of all
    servers. -/
theorem listeners_eq (c : Config) : listeners c = (Kind.all.filter (wants c)).map (listenerOf c) := by
  unfold listeners Kind.all
  cases hhttp : c.server.http.enabled <;> cases hprofiler : c.profiler.enabled <;>
    simp [List.filter_cons, wants, hhttp, hprofiler, listenerOf, portSetting, portOf]

/-- What stands before a server in this list are the earlier servers that settings ask for. -/
theorem mem_front_iff {front back : List Kind} (h : Kind.all.filter (wants c) = front ++ k :: back) :
    j ∈ front ↔ j ∈ earlier k ∧ wants c j := by
  have hdistinct : Kind.all.Nodup := by decide
  have hcut : ∀ i, ∃ later, Kind.all = earlier i ++ i :: later := by
    intro i
    cases i <;> exact ⟨_, rfl⟩
  obtain ⟨later, hall⟩ := hcut k
  have hwanted : wants c k := by
    have hmem : k ∈ Kind.all.filter (wants c) := by simp [h]
    exact (List.mem_filter.mp hmem).2
  have hfiltered : front ++ k :: back = (earlier k).filter (wants c) ++ k :: later.filter (wants c) := by
    rw [← h, hall, List.filter_append, List.filter_cons_of_pos hwanted]
  -- No server stands twice in the list, so it can be cut before this one in one way only.
  have honce : (front ++ k :: back).Nodup := h ▸ hdistinct.filter _
  have hfront : k ∉ front := fun hk => (List.nodup_append.mp honce).2.2 k hk k (by simp) rfl
  have hback : k ∉ back := (List.nodup_cons.mp (List.nodup_append.mp honce).2.1).1
  obtain ⟨rfl, -, -⟩ := (List.append_cons_inj_of_notMem hfront hback).mp hfiltered
  exact List.mem_filter

/-! ### Ports that are taken -/

/-- The port of a server is taken: settings ask for it and for an earlier one with the same port, and
    the port is not zero. -/
def Taken (c : Config) (k : Kind) : Prop :=
  wants c k ∧ portOf c k ≠ 0 ∧ ∃ j ∈ earlier k, wants c j ∧ portOf c j = portOf c k

instance : Decidable (Taken c k) :=
  inferInstanceAs (Decidable (_ ∧ _ ∧ _))

/-- The first server whose port is taken. -/
def FirstTaken (c : Config) (k : Kind) : Prop :=
  Taken c k ∧ ∀ j ∈ earlier k, ¬ Taken c j

/-- From any place in the list on, the first server is found whose port is taken, if the ports of the
    servers before this place are known. -/
theorem clash?_rest {taken : List UInt16} {done rest : List Kind}
    (h : Kind.all.filter (wants c) = done ++ rest)
    (known : ∀ port, port ∈ taken ↔ port ≠ 0 ∧ ∃ j ∈ done, portOf c j = port) :
    clash? taken (rest.map (listenerOf c)) = (rest.find? fun k => Taken c k).map (listenerOf c) := by
  -- By induction over the servers that are left; the ports seen so far are those of the servers before.
  induction rest generalizing taken done with
  | nil => rfl
  | cons k rest ih =>
    have hwanted : wants c k := by
      have hmem : k ∈ Kind.all.filter (wants c) := by simp [h]
      exact (List.mem_filter.mp hmem).2
    have htaken : Taken c k ↔ portOf c k ∈ taken := by
      simp [Taken, known, mem_front_iff h, hwanted, and_assoc]
    have hnext : Kind.all.filter (wants c) = (done ++ [k]) ++ rest := by simp [h]
    rw [List.map_cons, clash?]
    show (if portOf c k = 0 then _ else if portOf c k ∈ taken then some (listenerOf c k) else _) = _
    by_cases hzero : portOf c k = 0
    · -- A port 0 is free for all and is not remembered.
      have hfree : ¬ Taken c k := fun h => h.2.1 hzero
      rw [if_pos hzero, List.find?_cons_of_neg (by simpa using hfree)]
      refine ih hnext fun port => ?_
      rw [known]
      refine and_congr_right fun hport => ?_
      simp [hzero, Ne.symm hport]
    · rw [if_neg hzero]
      by_cases hmem : portOf c k ∈ taken
      · rw [if_pos hmem, List.find?_cons_of_pos (by simpa using htaken.mpr hmem)]
        rfl
      · rw [if_neg hmem, List.find?_cons_of_neg (by simpa using mt htaken.mp hmem)]
        refine ih hnext fun port => ?_
        -- The port of this server is now among those seen.
        show port ∈ portOf c k :: taken ↔ _
        rw [List.mem_cons, known]
        constructor
        · rintro (rfl | ⟨hport, j, hj, rfl⟩)
          · exact ⟨hzero, k, by simp, rfl⟩
          · exact ⟨hport, j, by simp [hj], rfl⟩
        · rintro ⟨hport, j, hj, rfl⟩
          rcases List.mem_append.mp hj with hj | hj
          · exact .inr ⟨hport, j, hj, rfl⟩
          · exact .inl (by rw [List.mem_singleton.mp hj])

/-- The listener that is found is the one of the first server whose port is taken. -/
theorem clash?_listeners (c : Config) :
    clash? [] (listeners c)
      = ((Kind.all.filter (wants c)).find? fun k => Taken c k).map (listenerOf c) := by
  rw [listeners_eq]
  exact clash?_rest (List.nil_append _).symm (by simp)

/-- The listener that is reported is the first one whose port is taken by an earlier one. -/
theorem clash?_listeners_eq_some_iff {l : Listener} :
    clash? [] (listeners c) = some l ↔ ∃ k, FirstTaken c k ∧ listenerOf c k = l := by
  rw [clash?_listeners, Option.map_eq_some_iff]
  refine exists_congr fun k => and_congr_left fun _ => ?_
  rw [List.find?_eq_some_iff_append, decide_eq_true_iff]
  constructor
  · rintro ⟨htaken, front, back, hcut, hfront⟩
    refine ⟨htaken, fun j hj hother => ?_⟩
    have hmem : j ∈ front := (mem_front_iff hcut).mpr ⟨hj, hother.1⟩
    simpa [hother] using hfront j hmem
  · rintro ⟨htaken, hfirst⟩
    have hmem : k ∈ Kind.all.filter (wants c) :=
      List.mem_filter.mpr ⟨by cases k <;> decide, htaken.1⟩
    obtain ⟨front, back, hcut⟩ := List.append_of_mem hmem
    refine ⟨htaken, front, back, hcut, fun j hj => ?_⟩
    simpa using hfirst j ((mem_front_iff hcut).mp hj).1

/-- No clash is reported exactly if no listener has a port that is taken. -/
theorem clash?_listeners_eq_none_iff : clash? [] (listeners c) = none ↔ ∀ k, ¬ Taken c k := by
  rw [clash?_listeners, Option.map_eq_none_iff, List.find?_eq_none]
  refine ⟨fun h k htaken => ?_, fun h k _ => by simpa using h k⟩
  have hmem : k ∈ Kind.all.filter (wants c) :=
    List.mem_filter.mpr ⟨by cases k <;> decide, htaken.1⟩
  simpa [htaken] using h k hmem

/-! ### What is asked of settings -/

/-- Nothing that TLS needs is empty if it is enabled. -/
def Tls.Complete (t : Tls) : Prop :=
  t.enabled → t.certPath ≠ "" ∧ t.keyPath ≠ "" ∧ t.serverName ≠ ""

/-- Settings that are sound apart from their ports. -/
structure SoundApart (c : Config) : Prop where
  rpcTls : c.server.grpc.tls.Complete
  httpTls : c.server.http.enabled → c.server.http.tls.Complete
  rateLimit : c.server.rateLimit ≠ 0
  presharedKeys : c.authn.enabled → c.authn.method = "preshared" → c.authn.preshared.keys ≠ []
  httpTimeout : c.server.http.enabled → c.server.shutdown.httpTimeoutSecs ≠ 0

/-- No two servers that settings ask for have the same port, unless it is zero. -/
def PortsDistinct (c : Config) : Prop :=
  ∀ j k, wants c j → wants c k → portOf c j ≠ 0 → portOf c j = portOf c k → j = k

/-- Settings with which the servers can be started. -/
structure Sound (c : Config) : Prop extends SoundApart c where
  ports : PortsDistinct c

/-- The ports are distinct just if none of them is taken. -/
theorem portsDistinct_iff : PortsDistinct c ↔ ∀ k, ¬ Taken c k := by
  have hearlier : ∀ j k : Kind, j = k ∨ j ∈ earlier k ∨ k ∈ earlier j := by
    intro j k
    cases j <;> cases k <;> decide
  have hirrefl : ∀ k : Kind, k ∉ earlier k := by
    intro k
    cases k <;> decide
  constructor
  · rintro h k ⟨hk, hport, j, hj, hwanted, hsame⟩
    have hjk : j = k := h j k hwanted hk (hsame ▸ hport) hsame
    exact hirrefl k (hjk ▸ hj)
  · intro h j k hj hk hport hsame
    rcases hearlier j k with hjk | hjk | hjk
    · exact hjk
    · exact absurd ⟨hk, hsame ▸ hport, j, hjk, hj, hsame⟩ (h k)
    · exact absurd ⟨hj, hport, k, hjk, hk, hsame.symm⟩ (h j)

/-! ### What is found -/

/-- No path is reported as empty exactly if the settings of TLS are complete. -/
theorem emptyPart?_eq_none_iff {t : Tls} : t.emptyPart? = none ↔ t.Complete := by
  unfold Tls.emptyPart? Tls.Complete
  cases t.enabled with
  | false => simp
  | true =>
    simp only [Bool.not_true, Bool.false_eq_true, if_false, String.isEmpty_iff, forall_const]
    split
    · next h => simp [h]
    · split
      · next h => simp [h]
      · split
        · next h => simp [h]
        · next hcert hkey hname => simp [hcert, hkey, hname]

/-- There is no first problem exactly if none of the checks finds one. -/
theorem firstProblem_eq_none_iff {ps : List (Option Problem)} :
    firstProblem ps = none ↔ ∀ p ∈ ps, p = none := by
  induction ps with
  | nil => simp [firstProblem]
  | cons p rest ih => cases p <;> simp [firstProblem, ih]

/-- The problems that are looked for before the ports are compared. -/
def problemsApart (c : Config) : List (Option Problem) := [
  c.server.grpc.tls.emptyPart?.map (.emptyTlsPart "server.grpc.tls"),
  if c.server.http.enabled then
    c.server.http.tls.emptyPart?.map (.emptyTlsPart "server.http.tls") else none,
  problemIf .noRateLimit (c.server.rateLimit = 0),
  problemIf .noPresharedKeys
    (c.authn.enabled && c.authn.method = "preshared" && c.authn.preshared.keys.isEmpty),
  problemIf .noHttpTimeout (c.server.http.enabled && c.server.shutdown.httpTimeoutSecs = 0)]

/-- The ports are compared last. -/
theorem problem?_eq (c : Config) :
    problem? c = (firstProblem (problemsApart c)).or
      ((clash? [] (listeners c)).map fun l => .portTaken l.1 l.2) := by
  have happend : ∀ (ps : List (Option Problem)) (last : Option Problem),
      firstProblem (ps ++ [last]) = (firstProblem ps).or last := by
    intro ps last
    induction ps with
    | nil => cases last <;> rfl
    | cons p rest ih =>
      cases p with
      | none => exact ih
      | some p => rfl
  exact happend (problemsApart c) _

/-- The checks other than that of the ports find nothing exactly if the rest of the settings is
    sound. -/
theorem firstProblem_apart_iff : firstProblem (problemsApart c) = none ↔ SoundApart c := by
  rw [firstProblem_eq_none_iff]
  have hall : (∀ p ∈ problemsApart c, p = none)
      ↔ c.server.grpc.tls.Complete ∧ (c.server.http.enabled → c.server.http.tls.Complete)
        ∧ c.server.rateLimit ≠ 0
        ∧ (c.authn.enabled → c.authn.method = "preshared" → c.authn.preshared.keys ≠ [])
        ∧ (c.server.http.enabled → c.server.shutdown.httpTimeoutSecs ≠ 0) := by
    simp [problemsApart, problemIf, emptyPart?_eq_none_iff]
  rw [hall]
  exact ⟨fun ⟨h₁, h₂, h₃, h₄, h₅⟩ => ⟨h₁, h₂, h₃, h₄, h₅⟩,
    fun h => ⟨h.rpcTls, h.httpTls, h.rateLimit, h.presharedKeys, h.httpTimeout⟩⟩

/-- **Settings have no problem just if they are sound.** -/
theorem problem?_eq_none_iff : problem? c = none ↔ Sound c := by
  rw [problem?_eq, Option.or_eq_none_iff, firstProblem_apart_iff, Option.map_eq_none_iff,
    clash?_listeners_eq_none_iff, ← portsDistinct_iff]
  exact ⟨fun h => ⟨h.1, h.2⟩, fun h => ⟨h.toSoundApart, h.ports⟩⟩

/-- **Checking settings is exact.** Settings are accepted just if they are sound: TLS is complete
    wherever it is enabled for a server that is asked for, calls are admitted at all, there are keys if
    keys are asked for, the gateway is given time to stop if it is asked for, and the servers that are
    asked for have different ports, as far as these are not zero. If nothing but the ports is wrong, the
    problem names the first server, in the order primary, invoker, gateway, profiler, whose port an
    earlier one has. -/
theorem accepted_iff_sound (c : Config) :
    (problem? c = none ↔ Sound c)
    ∧ (SoundApart c → ∀ p, problem? c = some p
        ↔ ∃ k, FirstTaken c k ∧ p = .portTaken (portSetting k) (portOf c k)) := by
  refine ⟨problem?_eq_none_iff, fun happart p => ?_⟩
  rw [problem?_eq, firstProblem_apart_iff.mpr happart, Option.none_or, Option.map_eq_some_iff]
  simp only [clash?_listeners_eq_some_iff]
  constructor
  · rintro ⟨-, ⟨k, hfirst, rfl⟩, rfl⟩
    exact ⟨k, hfirst, rfl⟩
  · rintro ⟨k, hfirst, rfl⟩
    exact ⟨_, ⟨k, hfirst, rfl⟩, rfl⟩

/-- A gateway that is not asked for does not take its port, nor hide that another server takes one. -/
example :
    let http : Http := { enabled := false, port := 1 }
    let profiler : Profiler := { enabled := true, port := 1 }
    let c : Config := { server := { grpc := { port := 1 }, http }, profiler }
    problem? c = some (.portTaken "profiler.port" 1) := by
  decide

end Rebac.Config
