import Rebac.Server.Shutdown
import Mathlib.Data.List.Forall2

namespace Rebac.Server

/-!
# Servers stop in order

What happens while the servers of a process are stopped, whichever of them run, however each of them
ends, and however the stops of the two RPC servers alternate.

* `Woven` — two sequences at the same time; `exists_weave`, `woven_weave` say that the choices of a
  shutdown reach every such sequence and no other.
* `Precedes` — one thing has happened before another does.
* `count_stopping`, `precedes_own`, `settled_precedes_asked` — what happens to one server, and in which
  order it happens to two; `orderly_moments` has them together.
* `failures_failed` — the failures that are told are those of the servers that did not end as they
  should.
* `stops_in_order` — **a shutdown is ordered, complete and honest**.
-/

/-! ### Sequences at the same time -/

section Sequences

variable {α : Type} {as bs cs : List α} {a b c : α}

/-- A sequence in which two others happen at the same time, each in its own order. -/
inductive Woven : List α → List α → List α → Prop
  | nil : Woven [] [] []
  | first {a : α} {as bs cs : List α} (h : Woven as bs cs) : Woven (a :: as) bs (a :: cs)
  | second {b : α} {as bs cs : List α} (h : Woven as bs cs) : Woven as (b :: bs) (b :: cs)

/-- Two sequences at the same time can be told in either order. -/
theorem Woven.swap (h : Woven as bs cs) : Woven bs as cs := by
  induction h with
  | nil => exact .nil
  | first _ ih => exact ih.second
  | second _ ih => exact ih.first

/-- The second sequence may happen after the first one. -/
theorem Woven.append (as bs : List α) : Woven as bs (as ++ bs) := by
  induction as with
  | nil =>
    induction bs with
    | nil => exact .nil
    | cons b bs ih => exact ih.second
  | cons a as ih => exact ih.first

/-- Whatever the choices are, each sequence keeps its order. -/
theorem woven_weave (choices : List Bool) (as bs : List α) : Woven as bs (weave choices as bs) := by
  fun_induction weave choices as bs with
  | case1 choices a as bs ih => exact ih.first
  | case2 choices as b bs ih => exact ih.second
  | case3 => exact .append _ _

/-- Every way in which two sequences alternate is one of the choices. -/
theorem exists_weave (h : Woven as bs cs) : ∃ choices, weave choices as bs = cs := by
  induction h with
  | nil => exact ⟨[], rfl⟩
  | first _ ih =>
    obtain ⟨choices, rfl⟩ := ih
    exact ⟨true :: choices, rfl⟩
  | second _ ih =>
    obtain ⟨choices, rfl⟩ := ih
    exact ⟨false :: choices, by rw [weave]⟩

/-- A sequence that is woven of two has everything as often as both together. -/
theorem Woven.count [DecidableEq α] (h : Woven as bs cs) (x : α) :
    cs.count x = as.count x + bs.count x := by
  induction h with
  | nil => rfl
  | first _ ih => simp only [List.count_cons, ih]; omega
  | second _ ih => simp only [List.count_cons, ih]; omega

/-- A sequence that is woven of two has what one of them has. -/
theorem Woven.mem_iff (h : Woven as bs cs) : c ∈ cs ↔ c ∈ as ∨ c ∈ bs := by
  induction h with
  | nil => simp
  | first _ ih => simp [ih, or_assoc]
  | second _ ih => simp [ih, or_left_comm]

/-- Whenever the second thing happens, the first has happened before. -/
def Precedes (a b : α) (cs : List α) : Prop :=
  ∀ front back, cs = front ++ b :: back → a ∈ front

/-- What comes first is not the second thing, and is the first one or leaves it to come in time. -/
theorem precedes_cons : Precedes a b (c :: cs) ↔ c ≠ b ∧ (c = a ∨ Precedes a b cs) := by
  constructor
  · intro h
    refine ⟨fun hc => by simpa using h [] cs (by rw [hc]; rfl), ?_⟩
    by_cases hca : c = a
    · exact .inl hca
    · refine .inr fun front back hcs => ?_
      have hmem := h (c :: front) back (by rw [hcs]; rfl)
      simpa [Ne.symm hca] using hmem
  · rintro ⟨hcb, h⟩ front back hcs
    cases front with
    | nil => exact absurd (List.cons.inj hcs).1 hcb
    | cons d front =>
      obtain ⟨rfl, hrest⟩ := List.cons.inj hcs
      rcases h with rfl | h
      · exact List.mem_cons_self
      · exact List.mem_cons_of_mem c (h front back hrest)

/-- What does not happen is preceded by anything. -/
theorem precedes_of_notMem (h : b ∉ cs) : Precedes a b cs := by
  rintro front back rfl
  exact absurd (by simp) h

/-- The order of two things, seen from two parts of a sequence. -/
theorem Precedes.append (h : Precedes a b as) (h' : a ∈ as ∨ Precedes a b bs) :
    Precedes a b (as ++ bs) := by
  induction as with
  | nil => exact h'.resolve_left List.not_mem_nil
  | cons c as ih =>
    obtain ⟨hcb, h⟩ := precedes_cons.mp h
    refine precedes_cons.mpr ⟨hcb, ?_⟩
    by_cases hca : c = a
    · exact .inl hca
    · have hthen : a ∈ as ∨ Precedes a b bs := by simpa [Ne.symm hca] using h'
      exact .inr (ih (h.resolve_left hca) hthen)

/-- One thing happens before another if a sequence can be cut between them. -/
theorem precedes_of_cut (ha : a ∈ as) (hb : b ∉ as) : Precedes a b (as ++ bs) :=
  (precedes_of_notMem hb).append (.inl ha)

/-- The order of two things stays if something else happens at the same time. -/
theorem Woven.precedes (h : Woven as bs cs) (hab : Precedes a b as) (hb : b ∉ bs) :
    Precedes a b cs := by
  induction h with
  | nil => exact hab
  | first _ ih =>
    obtain ⟨hne, hthen⟩ := precedes_cons.mp hab
    exact precedes_cons.mpr ⟨hne, hthen.imp_right fun hrest => ih hrest hb⟩
  | second _ ih =>
    have hne := List.ne_of_not_mem_cons hb
    exact precedes_cons.mpr ⟨Ne.symm hne, .inr (ih hab (List.not_mem_of_not_mem_cons hb))⟩

end Sequences

/-! ### What happens to one server -/

/-- The server that a moment is about. -/
def Moment.server : Moment → Kind
  | told event => event.server
  | settled k => k

section One

variable {bound : Option UInt64} {k j : Kind} {x : Moment}

/-- What a server tells of its end is about itself, and it does not ask itself to stop. -/
theorem server_of_mem_events {ending : Ending} {event : Event} (h : event ∈ ending.events k) :
    event.server = k ∧ event ≠ .stopping k := by
  cases ending with
  | clean => cases List.mem_singleton.mp h; exact ⟨rfl, nofun⟩
  | failed error => cases List.mem_singleton.mp h; exact ⟨rfl, nofun⟩
  | panicked reason => cases h
  | late => cases h

/-- What happens between the moment in which a server is asked and the one in which it is waited for no
    longer. -/
theorem mem_told {stop : Stop bound}
    (h : x ∈ (if stop.early then [] else stop.ending.events k).map Moment.told) :
    ∃ event, x = .told event ∧ event.server = k ∧ event ≠ .stopping k := by
  obtain ⟨event, hevent, rfl⟩ := List.mem_map.mp h
  split at hevent
  · cases hevent
  · exact ⟨event, rfl, server_of_mem_events hevent⟩

/-- Everything that happens while a server is stopped is about this server. -/
theorem server_of_mem_moments {stop : Stop bound} (h : x ∈ stop.moments k) : x.server = k := by
  rcases List.mem_cons.mp h with rfl | h
  · rfl
  · rcases List.mem_append.mp h with h | h
    · obtain ⟨event, rfl, hserver, -⟩ := mem_told h
      exact hserver
    · cases List.mem_singleton.mp h
      rfl

/-- A server is asked to stop once. -/
theorem count_asked (stop : Stop bound) : (stop.moments k).count (.told (.stopping k)) = 1 := by
  have hlater : Moment.told (.stopping k)
      ∉ (if stop.early then [] else stop.ending.events k).map Moment.told ++ [.settled k] := by
    intro h
    rcases List.mem_append.mp h with h | h
    · obtain ⟨event, hevent, -, hne⟩ := mem_told h
      exact hne (Moment.told.inj hevent).symm
    · cases List.mem_singleton.mp h
  rw [Stop.moments, List.count_cons_self, List.count_eq_zero.mpr hlater]

/-- A server is waited for until it has ended or is given up. -/
theorem settled_mem (stop : Stop bound) : Moment.settled k ∈ stop.moments k := by
  simp [Stop.moments]

/-- A server is asked before it is waited for. -/
theorem asked_precedes_settled (stop : Stop bound) :
    Precedes (.told (.stopping k)) (.settled k) (stop.moments k) :=
  precedes_cons.mpr ⟨nofun, .inl rfl⟩

end One

/-! ### What happens to all servers -/

/-- The step of a shutdown in which a server is stopped. -/
def Kind.stopStep : Kind → Nat
  | gateway => 0
  | primary | invoker => 1
  | profiler => 2

namespace ServerSet

variable {s : ServerSet} {stops : s.Stops} {choices : List Bool} {k j : Kind} {x : Moment}

/-- What happens while a server is stopped is about this server. -/
theorem server_of_mem_momentsOf (h : x ∈ s.momentsOf stops k) : x.server = k := by
  unfold momentsOf at h
  split at h
  · exact server_of_mem_moments h
  · cases h

/-- What is about another server does not happen while a server is stopped. -/
theorem notMem_momentsOf (h : x.server ≠ k) : x ∉ s.momentsOf stops k :=
  fun hx => h (server_of_mem_momentsOf hx)

/-- A moment happens as often as it does while its own server is stopped. -/
theorem count_moments (x : Moment) :
    (s.moments stops choices).count x = (s.momentsOf stops x.server).count x := by
  have hrpc := (woven_weave choices (s.momentsOf stops .primary) (s.momentsOf stops .invoker)).count x
  have hother : ∀ k, x.server ≠ k → (s.momentsOf stops k).count x = 0 :=
    fun k hk => List.count_eq_zero.mpr (notMem_momentsOf hk)
  rw [moments, List.count_append, List.count_append, hrpc]
  cases hx : x.server with
  | gateway => simp [hother .primary, hother .invoker, hother .profiler, hx]
  | primary => simp [hother .gateway, hother .invoker, hother .profiler, hx]
  | invoker => simp [hother .gateway, hother .primary, hother .profiler, hx]
  | profiler => simp [hother .gateway, hother .primary, hother .invoker, hx]

/-- All that happens is what happens while its own server is stopped. -/
theorem mem_moments_iff : x ∈ s.moments stops choices ↔ x ∈ s.momentsOf stops x.server := by
  rw [← List.count_pos_iff, count_moments, List.count_pos_iff]

/-- **Every server that runs is asked to stop exactly once**, and no other is asked. -/
theorem count_stopping (k : Kind) :
    (s.moments stops choices).count (.told (.stopping k)) = if k ∈ s.running then 1 else 0 := by
  rw [count_moments]
  show (s.momentsOf stops k).count _ = _
  unfold momentsOf
  split
  · exact count_asked (stops k)
  · rfl

/-- Every server that runs is waited for. -/
theorem settled_mem_moments (h : k ∈ s.running) : .settled k ∈ s.moments stops choices := by
  rw [mem_moments_iff]
  show _ ∈ s.momentsOf stops k
  rw [momentsOf, if_pos h]
  exact settled_mem (stops k)

/-- The order of two moments of one server is the one in which they happen while it is stopped. -/
theorem precedes_own {y : Moment} (h : Precedes x y (s.momentsOf stops y.server)) :
    Precedes x y (s.moments stops choices) := by
  have hother : ∀ k, y.server ≠ k → Precedes x y (s.momentsOf stops k) :=
    fun k hk => precedes_of_notMem (notMem_momentsOf hk)
  have hwoven := woven_weave choices (s.momentsOf stops .primary) (s.momentsOf stops .invoker)
  have hgateway : Precedes x y (s.momentsOf stops .gateway) := by
    by_cases hy : y.server = .gateway
    · rwa [hy] at h
    · exact hother _ hy
  have hrpc : Precedes x y
      (weave choices (s.momentsOf stops .primary) (s.momentsOf stops .invoker)) := by
    by_cases hy : y.server = .invoker
    · rw [hy] at h
      exact hwoven.swap.precedes h (notMem_momentsOf (by rw [hy]; nofun))
    · refine hwoven.precedes ?_ (notMem_momentsOf hy)
      by_cases hy : y.server = .primary
      · rwa [hy] at h
      · exact hother _ hy
  have hprofiler : Precedes x y (s.momentsOf stops .profiler) := by
    by_cases hy : y.server = .profiler
    · rwa [hy] at h
    · exact hother _ hy
  exact (hgateway.append (.inr hrpc)).append (.inr hprofiler)

/-- **A server is waited for no longer before one of a later step is asked to stop.** -/
theorem settled_precedes_asked (h : k ∈ s.running) (hstep : k.stopStep < j.stopStep) :
    Precedes (.settled k) (.told (.stopping j)) (s.moments stops choices) := by
  have hin : .settled k ∈ s.moments stops choices := settled_mem_moments h
  have hsettled : .settled k ∈ s.momentsOf stops k := mem_moments_iff.mp hin
  have hlater : ∀ i, i.stopStep < j.stopStep → .told (.stopping j) ∉ s.momentsOf stops i := by
    rintro i hi hmem
    obtain rfl : j = i := server_of_mem_momentsOf hmem
    exact Nat.lt_irrefl _ hi
  have hwoven := woven_weave choices (s.momentsOf stops .primary) (s.momentsOf stops .invoker)
  -- The later server is not asked before the step of the earlier one is done: cut there.
  rw [moments]
  cases k with
  | gateway =>
    rw [List.append_assoc]
    exact precedes_of_cut hsettled (hlater _ hstep)
  | primary | invoker =>
    refine precedes_of_cut (List.mem_append_right _ (hwoven.mem_iff.mpr ?_)) ?_
    · simp only [hsettled, true_or, or_true]
    rw [List.mem_append, hwoven.mem_iff]
    rintro (hmem | hmem | hmem)
    · exact hlater .gateway (Nat.lt_trans Nat.zero_lt_one hstep) hmem
    · exact hlater .primary hstep hmem
    · exact hlater .invoker hstep hmem
  | profiler => cases j <;> exact absurd hstep (by decide)

/-- What an orderly shutdown looks like, whatever comes of its steps. -/
structure Orderly (s : ServerSet) (moments : List Moment) : Prop where
  /-- Every server that runs is asked to stop exactly once, and no other. -/
  once : ∀ k, moments.count (.told (.stopping k)) = if k ∈ s.running then 1 else 0
  /-- The gateway is asked before anything else happens. -/
  gateway : .gateway ∈ s.running → moments.head? = some (.told (.stopping .gateway))
  /-- Every server that runs ends or is given up, after it was asked. -/
  waited : ∀ k ∈ s.running, .settled k ∈ moments
    ∧ Precedes (.told (.stopping k)) (.settled k) moments
  /-- No server is asked before those of the earlier steps have ended or are given up. -/
  stepwise : ∀ k ∈ s.running, ∀ j, k.stopStep < j.stopStep →
    Precedes (.settled k) (.told (.stopping j)) moments

/-- **The servers are stopped in order**, whatever the two RPC servers do at the same time. -/
theorem orderly_moments : s.Orderly (s.moments stops choices) where
  once := count_stopping
  gateway h := by rw [moments, momentsOf, if_pos h]; rfl
  waited k h := by
    refine ⟨settled_mem_moments h, precedes_own ?_⟩
    show Precedes _ _ (s.momentsOf stops k)
    rw [momentsOf, if_pos h]
    exact asked_precedes_settled (stops k)
  stepwise _ h _ hstep := settled_precedes_asked h hstep

/-- However the two RPC servers alternate, there are choices for it. -/
theorem exists_moments {rpc : List Moment}
    (h : Woven (s.momentsOf stops .primary) (s.momentsOf stops .invoker) rpc) :
    ∃ choices, s.moments stops choices
      = s.momentsOf stops .gateway ++ rpc ++ s.momentsOf stops .profiler := by
  obtain ⟨choices, rfl⟩ := exists_weave h
  exact ⟨choices, rfl⟩

/-! ### What is reported -/

/-- The servers that did not end as they should, in the order in which they are told. -/
def failed (s : ServerSet) (stops : s.Stops) : List Kind :=
  stopOrder.filter fun k => k ∈ s.running ∧ (stops k).ending ≠ .clean

/-- A step is reported unless its server ended as it should: what is waited for without a bound does
    not run late. -/
theorem failureOf?_eq_none_iff : s.failureOf? stops k = none ↔ (stops k).ending = .clean := by
  rw [failureOf?]
  cases hending : (stops k).ending with
  | clean => simp [Ending.failure?]
  | failed error => simp [Ending.failure?]
  | panicked reason => simp [Ending.failure?]
  | late =>
    obtain ⟨bound, hbound⟩ := Option.isSome_iff_exists.mp ((stops k).bounded hending)
    simp [Ending.failure?, hbound]

/-- The servers that fail are the running ones that do not end as they should. -/
theorem mem_failed_iff : k ∈ s.failed stops ↔ k ∈ s.running ∧ (stops k).ending ≠ .clean := by
  rw [failed, List.mem_filter, decide_eq_true_iff]
  exact and_iff_right (by cases k <;> decide)

/-- Each failed step is reported once, in the order of the steps. -/
theorem failures_failed :
    List.Forall₂ (fun k step => s.failureOf? stops k = some step) (s.failed stops)
      (s.failures stops) := by
  rw [failed, failures]
  induction stopOrder with
  | nil => exact .nil
  | cons k ks ih =>
    by_cases hrunning : k ∈ s.running
    · rw [List.filter_cons_of_pos (p := fun k => k ∈ s.running) (decide_eq_true hrunning)]
      by_cases hclean : (stops k).ending = .clean
      · rw [List.filter_cons_of_neg (by simp [hclean]),
          List.filterMap_cons_none (failureOf?_eq_none_iff.mpr hclean)]
        exact ih
      · obtain ⟨step, hstep⟩ :=
          Option.ne_none_iff_exists'.mp (mt failureOf?_eq_none_iff.mp hclean)
        rw [List.filter_cons_of_pos (by simp [hrunning, hclean]), List.filterMap_cons_some hstep]
        exact .cons hstep ih
    · simpa [hrunning] using ih

/-- There are no failures exactly if every running server ends as it should. -/
theorem failures_eq_nil_iff :
    s.failures stops = [] ↔ ∀ k ∈ s.running, (stops k).ending = .clean := by
  have hlength : (s.failed stops).length = (s.failures stops).length := failures_failed.length_eq
  rw [← List.length_eq_zero_iff, ← hlength, List.length_eq_zero_iff, List.eq_nil_iff_forall_not_mem]
  simp only [mem_failed_iff, not_and, not_not]

/-- What comes of a shutdown of servers that have not been stopped yet. -/
theorem stopAll_of_ne (h : s.phase ≠ .stopped) :
    s.stopAll stops choices
      = ((if s.failures stops = [] then .ok () else .error (.shutdown (s.failures stops))),
          (s.moments stops choices).filterMap Moment.event?, s.afterStop) := by
  rw [stopAll, if_neg h]
  cases s.failures stops with
  | nil => rfl
  | cons step steps => rfl

/-- Servers that are stopped stay so: nothing fails and nothing is told. -/
theorem stopAll_of_stopped (h : s.phase = .stopped) : s.stopAll stops choices = (.ok (), [], s) := by
  rw [stopAll, if_pos h]

/-- Servers that run or are being stopped are stopped in the end. -/
theorem phase_afterStop (h : s.phase = .serving ∨ s.phase = .shuttingDown) :
    s.afterStop.phase = .stopped := by
  rcases h with h | h <;> rw [afterStop, h] <;> rfl

end ServerSet

/-! ### Shutting down -/

open ServerSet

/-- **A shutdown is ordered, complete and honest.** Whichever servers run, however each of them ends
    and however the stops of the two RPC servers alternate: what happens is orderly; all is well exactly
    if every server ended as it should, and otherwise the failure lists the failed steps, each one in
    the order gateway, primary, invoker, profiler; afterwards the servers are stopped for good. -/
theorem stops_in_order (s : ServerSet) (h : s.phase = .serving ∨ s.phase = .shuttingDown)
    (stops : s.Stops) (choices : List Bool) :
    s.Orderly (s.moments stops choices)
    ∧ (∀ rpc, Woven (s.momentsOf stops .primary) (s.momentsOf stops .invoker) rpc →
        ∃ others, s.moments stops others
          = s.momentsOf stops .gateway ++ rpc ++ s.momentsOf stops .profiler)
    ∧ ∃ result after,
        s.stopAll stops choices
          = (result, (s.moments stops choices).filterMap Moment.event?, after)
        ∧ (result = .ok () ↔ ∀ k ∈ s.running, (stops k).ending = .clean)
        ∧ (result ≠ .ok () → ∃ steps, result = .error (.shutdown steps)
            ∧ List.Forall₂ (fun k step => s.failureOf? stops k = some step) (s.failed stops) steps)
        ∧ after.phase = .stopped
        ∧ ∀ (later : after.Stops) (others : List Bool),
            after.stopAll later others = (.ok (), [], after) := by
  have hnot : s.phase ≠ .stopped := by
    rcases h with h | h <;> rw [h] <;> decide
  refine ⟨orderly_moments, fun rpc hrpc => exists_moments hrpc, _, _, stopAll_of_ne hnot, ?_, ?_,
    phase_afterStop h, fun later others => stopAll_of_stopped (phase_afterStop h)⟩
  · rw [← failures_eq_nil_iff]
    split
    · exact iff_of_true rfl ‹_›
    · exact iff_of_false nofun ‹_›
  · intro hfailed
    split at hfailed
    · exact absurd rfl hfailed
    · rw [if_neg ‹_›]
      exact ⟨_, rfl, failures_failed⟩

/-- All servers run. -/
def allFour : ServerSet where
  phase := .serving
  gate := ⟨.ofRate 10, none⟩
  addresses _ := some ⟨.v4 [127, 0, 0, 1], 3476⟩
  running := [.primary, .invoker, .gateway, .profiler]
  shutdown := {}

/-- The gateway is given up, the primary server broke down long before, the profiler fails. -/
def mishaps : allFour.Stops
  | .gateway => ⟨.late, false, by decide⟩
  | .primary => ⟨.panicked "out of memory", true, by decide⟩
  | .invoker => ⟨.clean, false, by decide⟩
  | .profiler => ⟨.failed "listener closed", false, by decide⟩

/-- Three of four steps fail: they are told in order, the invoker is asked nevertheless, and the
    profiler after it. -/
theorem stops_in_order_mishaps :
    (allFour.phase = .serving ∨ allFour.phase = .shuttingDown)
    ∧ (allFour.stopAll mishaps [false, true]).1 = .error (.shutdown
        ["gateway server did not stop within 5s", "primary server task: out of memory",
          "profiler server: listener closed"])
    ∧ (allFour.moments mishaps [false, true]).count (.told (.stopping .invoker)) = 1
    ∧ Precedes (.settled .invoker) (.told (.stopping .profiler))
        (allFour.moments mishaps [false, true])
    ∧ (allFour.stopAll mishaps [false, true]).2.2.phase = .stopped := by
  have hserving : allFour.phase = .serving ∨ allFour.phase = .shuttingDown := .inl rfl
  obtain ⟨horderly, -, result, after, hall, -, hsteps, hstopped, -⟩ :=
    stops_in_order allFour hserving mishaps [false, true]
  refine ⟨hserving, ?_, (horderly.once .invoker).trans (if_pos (by decide)),
    horderly.stepwise .invoker (by decide) .profiler (by decide), by rw [hall]; exact hstopped⟩
  have hlate : result ≠ .ok () := by
    have hfirst : (allFour.stopAll mishaps [false, true]).1 ≠ .ok () := by decide
    rwa [hall] at hfirst
  obtain ⟨steps, hresult, htold⟩ := hsteps hlate
  rw [hall, hresult]
  have hfailed : allFour.failed mishaps = [.gateway, .primary, .profiler] := by decide
  rw [hfailed] at htold
  match steps, htold with
  | [first, second, third], .cons hfirst (.cons hsecond (.cons hthird .nil)) =>
    cases hfirst
    cases hsecond
    cases hthird
    rfl

end Rebac.Server
