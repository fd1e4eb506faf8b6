import Mathlib.Data.List.Forall2
import Rebac.Proofs.Store.Alike
import Rebac.Proofs.Store.Watched

namespace Rebac.Store

open Rebac.Message

/-!
# Tenants do not interfere

All tenants share one store, one counter and one log. What one of them can see, by asking or by
watching, does not depend on what the others do.

* `Backlog` — what the log has for a tenant, up to tokens.
* `Watched.Alike` — two stores that a tenant cannot tell apart, with watchers who cannot either;
  `Alike.step_other` and `Alike.step_kept` say that events keep them alike.
* `Alike.deliveries` — **the watchers of the two runs receive the same**, up to tokens.
* `tenants_do_not_interfere` — a tenant cannot tell whether the others did anything.
-/

variable {ρ : Renaming} {b : String} {s s' : Store} {op : Operation}

/-! ### Change sets -/

/-- Two parts of logs that bring a tenant the same changes, up to tokens. The second is not the longer
    one. -/
structure Backlog (b : String) (sets sets' : List (String × DataChanges)) : Prop where
  length_le : sets'.length ≤ sets.length
  changes : (ownOf b sets').map (·.dataChanges) = (ownOf b sets).map (·.dataChanges)

/-- Logs without entries bring the same changes. -/
theorem Backlog.nil (b : String) : Backlog b [] [] :=
  ⟨Nat.le_refl _, rfl⟩

/-- Logs that bring the same changes go on doing so when both go on with parts that do. -/
theorem Backlog.append {x x' y y' : List (String × DataChanges)} (hx : Backlog b x x')
    (hy : Backlog b y y') : Backlog b (x ++ y) (x' ++ y') where
  length_le := by
    have h := hx.length_le
    have h' := hy.length_le
    rw [List.length_append, List.length_append]
    omega
  changes := by
    rw [ownOf_append, ownOf_append, List.map_append, List.map_append, hx.changes, hy.changes]

/-- Changes under another token. -/
theorem Backlog.changeSet (b tenant token token' : String) (kind : ChangeKind) (tuples : List Tuple) :
    Backlog b (changeSet tenant token kind tuples) (changeSet tenant token' kind tuples) := by
  unfold Store.changeSet
  split
  · exact Backlog.nil b
  · refine ⟨Nat.le_refl _, ?_⟩
    by_cases h : tenant = b
    · simp [ownOf, h]
    · simp [ownOf, h]

/-- Changes of another tenant. -/
theorem Backlog.other {tenant : String} (hne : tenant ≠ b) (token : String) (kind : ChangeKind)
    (tuples : List Tuple) : Backlog b (Store.changeSet tenant token kind tuples) [] := by
  refine ⟨Nat.zero_le _, ?_⟩
  unfold Store.changeSet
  split
  · rfl
  · simp [ownOf, hne]

/-- What an operation on another tenant publishes brings the tenant no changes. -/
theorem Backlog.publishes_other (s : Store) (hop : op.changesOther b = true) :
    Backlog b (op.publishes s) [] := by
  cases op with
  | write tenant tuples => exact Backlog.other (of_decide_eq_true hop) ..
  | delete tenant filter => exact Backlog.other (of_decide_eq_true hop) ..
  | _ => exact Backlog.nil b

/-- On stores that are alike an operation publishes the same changes of the tenant. -/
theorem Alike.publishes (h : Alike ρ b s s') (hop : op.changesOther b = false) :
    Backlog b (op.publishes s) ((op.rename ρ).publishes s') := by
  cases op with
  | write tenant tuples =>
    obtain rfl : tenant = b := Decidable.of_not_not (of_decide_eq_false hop)
    have hunstored : s'.unstored tenant tuples = s.unstored tenant tuples := by
      unfold unstored
      rw [h.tuples]
    show Backlog tenant (Store.changeSet ..) (Store.changeSet _ _ _ (s'.unstored tenant tuples))
    rw [hunstored]
    exact Backlog.changeSet ..
  | delete tenant filter =>
    obtain rfl : tenant = b := Decidable.of_not_not (of_decide_eq_false hop)
    show Backlog tenant (Store.changeSet ..)
      (Store.changeSet _ _ _ ((s'.tuples tenant).filter (selects filter)))
    rw [h.tuples]
    exact Backlog.changeSet ..
  | _ => exact Backlog.nil b

/-- Who receives all there is of the first part receives all there is of the second, and the same
    changes. -/
theorem Backlog.due {u u' : List (String × DataChanges)} (h : Backlog b u u')
    (whole : ∀ e, .error e ∉ Store.due b u) :
    (∀ e, .error e ∉ Store.due b u')
      ∧ (changeSets (Store.due b u')).map (·.dataChanges)
          = (changeSets (Store.due b u)).map (·.dataChanges) := by
  have hwhole : ∀ e, .error e ∉ Store.due b u' :=
    whole_iff.mpr (Nat.le_trans h.length_le (whole_iff.mp whole))
  refine ⟨hwhole, ?_⟩
  rw [due_of_whole hwhole, due_of_whole whole, changeSets_ok, changeSets_ok, h.changes]

/-! ### Watchers -/

/-- Two deliveries that bring a watcher of the tenant the same changes, if the first has no notice. -/
def Delivery.Alike (b : String) (d d' : Delivery Received) : Prop :=
  d'.name = d.name ∧ d'.tenant = d.tenant
    ∧ (d.tenant = b → (∀ e, .error e ∉ d.items) →
        (∀ e, .error e ∉ d'.items)
          ∧ (changeSets d'.items).map (·.dataChanges) = (changeSets d.items).map (·.dataChanges))

namespace Watched

/-- Whether an event changes what belongs to another tenant. -/
def Event.changesOther (b : String) : Event → Bool
  | perform op => op.changesOther b
  | _ => false

/-- The event with its versions changed. -/
def Event.rename (ρ : Renaming) : Event → Event
  | perform op => perform (op.rename ρ)
  | e => e

/-- The events of a run without those that change what belongs to others, under new versions. -/
def alone (ρ : Renaming) (b : String) (events : List Event) : List Event :=
  (events.filter fun e => !e.changesOther b).map (·.rename ρ)

/-- The operations of what a tenant does alone are those that it does alone. -/
theorem operations_alone (ρ : Renaming) (b : String) (events : List Event) :
    operations (alone ρ b events) = Store.alone ρ b (operations events) := by
  induction events with
  | nil => rfl
  | cons e rest ih =>
    cases he : e.changesOther b with
    | true =>
      cases e with
      | perform op =>
        show operations (alone ρ b (.perform op :: rest)) = Store.alone ρ b (op :: operations rest)
        rw [alone_of_other he, alone, List.filter_cons_of_neg (by simp [he])]
        exact ih
      | _ => exact absurd he Bool.false_ne_true
    | false =>
      rw [alone, List.filter_cons_of_pos (by simp [he]), List.map_cons]
      cases e with
      | perform op =>
        show op.rename ρ :: operations (alone ρ b rest) = Store.alone ρ b (op :: operations rest)
        rw [alone_of_kept he, ih]
      | _ => exact ih

/-- Two watchers of one tenant for whom the logs have the same. -/
structure Follows (b : String) (l l' : Log) (x x' : Watcher) : Prop where
  tenant : x'.tenant = x.tenant
  backlog : Backlog b (x.unread l) (x'.unread l')

/-- Two stores that a tenant cannot tell apart, with watchers who cannot either. -/
structure Alike (ρ : Renaming) (b : String) (w w' : Watched) : Prop where
  store : Store.Alike ρ b w.store w'.store
  watchers : ∀ name, Option.Rel (Follows b w.store.log w'.store.log)
    (w.watchers.get? name) (w'.watchers.get? name)

variable {w w' : Watched}

/-- Watched stores are alike at the start. -/
theorem Alike.start (ρ : Renaming) (b : String) (now : Int64) :
    Alike ρ b (start (initial now)) (start (initial now)) where
  store := Store.Alike.initial ρ b now
  watchers _ := .none

/-- Under a name, there is a watcher in both or in neither. -/
theorem Alike.watcher (h : Alike ρ b w w') (name : String) :
    w.watchers.get? name = none ∧ w'.watchers.get? name = none
      ∨ ∃ x x', w.watchers.get? name = some x ∧ w'.watchers.get? name = some x'
          ∧ Follows b w.store.log w'.store.log x x' := by
  have hrel := h.watchers name
  generalize w.watchers.get? name = o at hrel ⊢
  generalize w'.watchers.get? name = o' at hrel ⊢
  cases hrel with
  | none => exact .inl ⟨rfl, rfl⟩
  | some hfollows => exact .inr ⟨_, _, rfl, rfl, hfollows⟩

/-- Watchers who do not look cannot tell the stores apart if the tenant cannot tell apart what is
    published. -/
theorem Alike.grown (h : Alike ρ b w w') (hw : w.Sound) (hw' : w'.Sound) (ops ops' : List Operation)
    (hnew : Backlog b (w.store.published ops) (w'.store.published ops')) (name : String) :
    Option.Rel (Follows b (w.store.after ops).log (w'.store.after ops').log)
      (w.watchers.get? name) (w'.watchers.get? name) := by
  rcases h.watcher name with ⟨hnone, hnone'⟩ | ⟨x, x', hx, hx', hfollows⟩
  · rw [hnone, hnone']
    exact .none
  · rw [hx, hx']
    refine .some ⟨hfollows.tenant, ?_⟩
    rw [Watcher.unread_of_grown (hw name x hx) (log_after w.store ops),
      Watcher.unread_of_grown (hw' name x' hx') (log_after w'.store ops')]
    exact hfollows.backlog.append hnew

/-- An operation on another tenant keeps watched stores alike. -/
theorem Alike.step_other (h : Alike ρ b w w') (hw : w.Sound) (hw' : w'.Sound) {op : Operation}
    (hop : op.changesOther b = true) : Alike ρ b (w.step (.perform op)) w' where
  store := h.store.other hop
  watchers name := by
    apply h.grown hw hw' [op] []
    rw [published_cons, published_nil, List.append_nil]
    exact Backlog.publishes_other _ hop

/-- What is left in the run keeps the stores alike, for the watchers as well. -/
theorem Alike.step_kept (h : Alike ρ b w w') (hw : w.Sound) (hw' : w'.Sound) {e : Event}
    (he : e.changesOther b = false) (room : w.store.Roomy (operations [e])) :
    Alike ρ b (w.step e) (w'.step (e.rename ρ)) := by
  cases e with
  | perform op =>
    refine ⟨h.store.kept he room.room, fun name => ?_⟩
    apply h.grown hw hw' [op] [op.rename ρ]
    rw [published_cons, published_cons, published_nil, published_nil, List.append_nil,
      List.append_nil]
    exact h.store.publishes he
  | subscribe name tenant =>
    refine ⟨h.store, fun name' => ?_⟩
    show Option.Rel _ ((w.step (.subscribe name tenant)).watchers.get? name')
      ((w'.step (.subscribe name tenant)).watchers.get? name')
    rw [watchers_subscribe, watchers_subscribe]
    split
    · -- Both have seen all there is.
      refine .some ⟨rfl, ?_⟩
      rw [Watcher.unread_of_seen rfl, Watcher.unread_of_seen rfl]
      exact Backlog.nil b
    · exact h.watchers name'
  | poll name =>
    refine ⟨?_, fun name' => ?_⟩
    · show Store.Alike ρ b (w.step (.poll name)).store (w'.step (.poll name)).store
      rw [store_poll, store_poll]
      exact h.store
    · show Option.Rel (Follows b (w.step (.poll name)).store.log (w'.step (.poll name)).store.log)
        ((w.step (.poll name)).watchers.get? name') ((w'.step (.poll name)).watchers.get? name')
      rw [store_poll, store_poll, watchers_poll, watchers_poll]
      split
      · rcases h.watcher name with ⟨hnone, hnone'⟩ | ⟨x, x', hx, hx', hfollows⟩
        · rw [hnone, hnone']
          exact .none
        · rw [hx, hx']
          refine .some ⟨hfollows.tenant, ?_⟩
          rw [Watcher.unread_of_seen rfl, Watcher.unread_of_seen rfl]
          exact Backlog.nil b
      · exact h.watchers name'

/-- Watchers who cannot tell the stores apart receive the same. -/
theorem Alike.deliver (h : Alike ρ b w w') (name : String) :
    List.Forall₂ (Delivery.Alike b) (w.deliver name) (w'.deliver name) := by
  rcases h.watcher name with ⟨hnone, hnone'⟩ | ⟨x, x', hx, hx', hfollows⟩
  · unfold Watched.deliver
    rw [hnone, hnone']
    exact .nil
  · rw [deliver_eq hx, deliver_eq hx']
    refine .cons ⟨rfl, hfollows.tenant, ?_⟩ .nil
    intro htenant
    dsimp only at htenant ⊢
    rw [hfollows.tenant, htenant]
    exact hfollows.backlog.due

/-- **The watchers of a run receive the same**, up to tokens. -/
theorem Alike.deliveries (h : Alike ρ b w w') (hw : w.Sound) (hw' : w'.Sound) {events : List Event}
    (room : w.store.Roomy (operations events)) :
    List.Forall₂ (Delivery.Alike b) (w.deliveries events)
      (w'.deliveries (Watched.alone ρ b events)) := by
  induction events generalizing w w' with
  | nil => exact .nil
  | cons e rest ih =>
    rw [operations_cons, roomy_append, ← store_step] at room
    cases he : e.changesOther b with
    | true =>
      -- Only the first run takes this step; it delivers nothing.
      cases e with
      | perform op =>
        rw [Watched.alone, List.filter_cons_of_neg (by simp [he])]
        exact ih (h.step_other hw hw' he) (sound_step hw _) hw' room.2
      | _ => exact absurd he Bool.false_ne_true
    | false =>
      rw [Watched.alone, List.filter_cons_of_pos (by simp [he]), List.map_cons, deliveries_cons,
        deliveries_cons]
      have hyields : List.Forall₂ (Delivery.Alike b) (w.yields e) (w'.yields (e.rename ρ)) := by
        cases e with
        | poll name => exact h.deliver name
        | _ => exact .nil
      refine List.rel_append hyields ?_
      exact ih (h.step_kept hw hw' he room.1) (sound_step hw _) (sound_step hw' _) room.2

end Watched

/-- **Tenants do not interfere.** Leave out of a run everything that changes what belongs to other
    tenants, and let the schemas have other versions. As long as no registration was refused for want
    of room, the answers to a tenant's questions stay the same, up to versions, and its watchers
    receive the same changes at every look that is not behind, up to tokens. -/
theorem tenants_do_not_interfere (now : Int64) (b : String) (ρ : Renaming)
    (events : List Watched.Event)
    (room : (initial now).Roomy (Watched.operations events)) :
    let rest := Watched.alone ρ b events
    (initial now).answers b (Watched.operations rest)
        = ((initial now).answers b (Watched.operations events)).map
            (fun a => ⟨a.1.rename ρ, a.1.renameAnswer ρ a.2⟩)
      ∧ List.Forall₂ (Delivery.Alike b) ((Watched.start (initial now)).deliveries events)
          ((Watched.start (initial now)).deliveries rest) := by
  intro rest
  have hsound : (Watched.start (initial now)).Sound := Watched.sound_start _
  refine ⟨?_, (Watched.Alike.start ρ b now).deliveries hsound hsound room⟩
  rw [Watched.operations_alone]
  exact (Alike.initial ρ b now).answers_eq room

/-- Versions with a mark. -/
def marked : Renaming where
  rename v := if v = "" then "" else v ++ "+"
  injective := by
    intro u v h
    have hmark : ∀ v : String, v ++ "+" ≠ "" := by simp
    change (if u = "" then "" else u ++ "+") = (if v = "" then "" else v ++ "+") at h
    by_cases hu : u = "" <;> by_cases hv : v = ""
    · exact hu.trans hv.symm
    · rw [if_pos hu, if_neg hv] at h
      exact absurd h.symm (hmark v)
    · rw [if_neg hu, if_pos hv] at h
      exact absurd h (hmark u)
    · rw [if_neg hu, if_neg hv] at h
      exact (String.append_left_inj "+").mp h
  rename_empty := rfl

/-- Two tenants side by side. The second comes and goes. -/
def neighbours : List Watched.Event :=
  [.subscribe "a" "t1", .perform (.createTenant 0 "t2" "second"),
    .perform (.write "t2" [viewing "1"]), .perform (.write "t1" [viewing "1"]),
    .perform (.writeSchema "t2" "entity note" "v1"), .perform (.writeSchema "t1" "entity user" "v2"),
    .perform (.deleteTenant "t2"), .poll "a", .perform (.readSchema "t1" "v2"),
    .perform (.count "t1")]

/-- The first tenant sees the same without the second. -/
theorem tenants_do_not_interfere_neighbours :
    (initial 0).Roomy (Watched.operations neighbours)
    ∧ (initial 0).answers "t1" (Watched.operations (Watched.alone marked "t1" neighbours))
        = [⟨.readSchema "t1" "v2+", .ok ⟨"v2+", "entity user"⟩⟩, ⟨.count "t1", (1 : Nat)⟩]
    ∧ List.Forall₂ (Delivery.Alike "t1") [⟨"a", "t1", [.ok ⟨"2", [⟨.create, some (viewing "1")⟩]⟩]⟩]
        ((Watched.start (initial 0)).deliveries (Watched.alone marked "t1" neighbours)) := by
  have hroom : (initial 0).Roomy (Watched.operations neighbours) := roomy_of_size (by decide)
  obtain ⟨hanswers, hdeliveries⟩ := tenants_do_not_interfere 0 "t1" marked neighbours hroom
  exact ⟨hroom, hanswers.trans rfl, hdeliveries⟩

end Rebac.Store
