import Rebac.Proofs.Store.Registry
import Rebac.Proofs.Store.Schemas

namespace Rebac.Store

open Rebac.Message

/-!
# Calls at the same time

The registry, the relationships and the schemas stand behind a lock each, and a call holds one lock at
a time. What it does under one lock is a turn: a removal of a tenant takes three, everything else takes
one. Other calls may have their turns between those of a removal.

* `LockTurn`, `Operation.turns` — the turns of a call; `after_turns` says that a call which is not
  interrupted does what its operation does.
* `Concurrent` — a store and what its callers still have to do; `after` and `history` run a schedule,
  which says whose turn it is.
* `mem_tuples_effect`, `mem_schemas_effect`, `find?_effect` — **the step laws**: what one turn does to
  relationships, schemas and tenants.
* `Ready`, `ready_after` — a call that forgets relationships or schemas has removed a tenant before.
* `since_registers` — a tenant that is registered has been registered and not removed since.
* `kept_unless_removed` — **what a removal can take from a tenant that was registered before**.
* `late_removal` — a removal that is overtaken takes what was written for the next tenant of the id.
-/

/-! ### Turns -/

/-- The tenant that an operation removes. -/
def Operation.removed? : Operation → Option String
  | deleteTenant id => some id
  | _ => none

/-- What a call does under one lock: all it has to do, or one part of the removal of a tenant. -/
inductive LockTurn where
  | whole (op : Operation) (single : op.removed? = none)
  | unregister (id : String)
  | dropTuples (id : String)
  | dropSchemas (id : String)

/-- The turns of a call. -/
def Operation.turns (op : Operation) : List LockTurn :=
  match h : op.removed? with
  | some id => [.unregister id, .dropTuples id, .dropSchemas id]
  | none => [.whole op h]

/-- Every operation but the removal of a tenant takes a single turn. -/
theorem Operation.turns_of_single {op : Operation} (h : op.removed? = none) :
    op.turns = [.whole op h] := by
  unfold turns
  split
  · next id hid => rw [h] at hid; cases hid
  · rfl

theorem Operation.turns_deleteTenant (id : String) :
    (deleteTenant id).turns = [.unregister id, .dropTuples id, .dropSchemas id] := rfl

/-- The only operation that removes a tenant is the one that says so. -/
theorem Operation.eq_deleteTenant {op : Operation} {id : String} (h : op.removed? = some id) :
    op = deleteTenant id := by
  cases op with
  | deleteTenant id' => cases h; rfl
  | _ => cases h

namespace LockTurn

/-- The store after a turn. -/
def effect (s : Store) : LockTurn → Store
  | whole op _ => (s.perform op).2
  | unregister id => (s.settle (s.unregister id)).2
  | dropTuples id => s.dropTuples id
  | dropSchemas id => s.dropSchemas id

/-- Whether a call goes on after a turn; a removal ends if there is no such tenant. -/
def goesOn (s : Store) : LockTurn → Bool
  | unregister id => (s.registry.find? id).isSome
  | _ => true

/-- The tenant that a turn registers. -/
def registers? (s : Store) : LockTurn → Option Tenant
  | whole (.createTenant now id name) _ =>
    if s.registry.find? id = none ∧ s.registry.size < maxTenants then some ⟨id, name, now⟩ else none
  | _ => none

/-- Whether a turn takes the tenant of an id out of the registry. -/
def unregisters (s : Store) (tenant : String) : LockTurn → Bool
  | unregister id => id = tenant && (s.registry.find? id).isSome
  | _ => false

/-- Whether a turn writes a relationship of a tenant, stored already or not. -/
def writes (tenant : String) (t : Tuple) : LockTurn → Bool
  | whole op _ => op.writes tenant t
  | _ => false

/-- Whether a turn removes a relationship of a tenant by a filter. -/
def deletes (tenant : String) (t : Tuple) : LockTurn → Bool
  | whole (.delete tenant' filter) _ => tenant' = tenant && selects filter t
  | _ => false

/-- The schema that a turn writes to a tenant, if any. -/
def draft? (tenant : String) : LockTurn → Option SchemaVersion
  | whole op _ => op.draft? tenant
  | _ => none

end LockTurn

/-! ### What a turn does -/

section Laws

variable {s : Store} {a : LockTurn} {tenant : String} {t : Tuple} {v : SchemaVersion}

/-- The first part of a removal takes the tenant out of the registry, if there is one. -/
theorem effect_unregister (s : Store) (id : String) :
    (LockTurn.unregister id).effect s
      = if (s.registry.find? id).isSome then { s with registry := s.registry.erase id } else s := by
  show (s.settle (s.unregister id)).2 = _
  unfold unregister
  cases s.registry.find? id <;> rfl

/-- A turn takes a tenant out of the registry exactly if it is the first one of a removal, and the
    tenant is there. -/
theorem unregisters_iff : a.unregisters s tenant = true
    ↔ a = .unregister tenant ∧ (s.registry.find? tenant).isSome = true := by
  cases a with
  | unregister id =>
    by_cases hid : id = tenant
    · simp [LockTurn.unregisters, hid]
    · simp [LockTurn.unregisters, hid]
  | _ => simp [LockTurn.unregisters]

/-- **The step law of relationships.** A relationship is stored after a turn that wrote it, or was stored
    before a turn that neither removed it by a filter nor forgot its tenant. -/
theorem mem_tuples_effect : t ∈ (a.effect s).tuples tenant
    ↔ a.writes tenant t = true
      ∨ t ∈ s.tuples tenant ∧ ¬ (a.deletes tenant t = true ∨ a = .dropTuples tenant) := by
  cases a with
  | whole op single =>
    -- Operations of a single turn: the step law of the store, in which no tenant is removed.
    show t ∈ (s.perform op).2.tuples tenant ↔ op.writes tenant t = true ∨ _
    rw [mem_perform]
    apply or_congr_right
    apply and_congr_right
    intro _
    cases op with
    | deleteTenant id => cases single
    | delete tenant' filter => simp [Operation.removes, LockTurn.deletes]
    | _ => simp [Operation.removes, LockTurn.deletes]
  | unregister id =>
    -- The removal of a tenant takes three turns, of which only the second touches relationships.
    have hsame : ((LockTurn.unregister id).effect s).tuples tenant = s.tuples tenant := by
      rw [effect_unregister]
      split <;> rfl
    rw [hsame]
    simp [LockTurn.writes, LockTurn.deletes]
  | dropTuples id =>
    show t ∈ ((s.tuplesOf.erase id).get? tenant).getD [] ↔ _
    rw [Table.get?_erase]
    by_cases hid : id = tenant
    · simp [hid, LockTurn.writes]
    · simp [hid, LockTurn.writes, LockTurn.deletes, tuples]
  | dropSchemas id =>
    show t ∈ s.tuples tenant ↔ _
    simp [LockTurn.writes, LockTurn.deletes]

/-- **The step law of schemas.** A tenant has a schema after a turn that wrote it, or had it before a turn
    that did not forget its schemas. -/
theorem mem_schemas_effect : v ∈ (a.effect s).schemas tenant
    ↔ a.draft? tenant = some v ∨ v ∈ s.schemas tenant ∧ a ≠ .dropSchemas tenant := by
  cases a with
  | whole op single =>
    have hkept : op.retires s tenant = false := by
      cases op with
      | deleteTenant id => cases single
      | _ => rfl
    show v ∈ (s.perform op).2.schemas tenant ↔ op.draft? tenant = some v ∨ _
    rw [schemas_perform, hkept, List.mem_append, Option.mem_toList, or_comm]
    simp
  | unregister id =>
    have hsame : ((LockTurn.unregister id).effect s).schemas tenant = s.schemas tenant := by
      rw [effect_unregister]
      split <;> rfl
    rw [hsame]
    simp [LockTurn.draft?]
  | dropTuples id =>
    show v ∈ s.schemas tenant ↔ _
    simp [LockTurn.draft?]
  | dropSchemas id =>
    show v ∈ ((s.schemasOf.erase id).get? tenant).getD [] ↔ _
    rw [Table.get?_erase]
    by_cases hid : id = tenant
    · simp [hid, LockTurn.draft?]
    · simp [hid, LockTurn.draft?, schemas]

/-- **The step law of tenants.** The tenant of an id was registered by a turn, or was registered before
    a turn that did not take it out. -/
theorem find?_effect {new : Tenant} (h : (a.effect s).registry.find? tenant = some new) :
    a.registers? s = some new
      ∨ s.registry.find? tenant = some new ∧ a.unregisters s tenant = false := by
  cases a with
  | whole op single =>
    rw [show (LockTurn.whole op single).effect s = (s.perform op).2 from rfl, find?_perform] at h
    cases op with
    | createTenant now id name =>
      dsimp only at h
      split at h
      · next hroom => exact .inl ((if_pos hroom.2).trans h)
      · exact .inr ⟨h, rfl⟩
    | deleteTenant id => cases single
    | _ => exact .inr ⟨h, rfl⟩
  | unregister id =>
    rw [effect_unregister] at h
    split at h
    · rw [find?_erase] at h
      split at h
      · cases h
      · next hid => exact .inr ⟨h, by simp [LockTurn.unregisters, hid]⟩
    · next hfree => exact .inr ⟨h, by simp [LockTurn.unregisters, hfree]⟩
  | _ => exact .inr ⟨h, rfl⟩

/-- A tenant that is registered by a turn is found under its id. -/
theorem find?_of_registers? {new : Tenant} (h : a.registers? s = some new) :
    (a.effect s).registry.find? new.id = some new := by
  cases a with
  | whole op single =>
    show (s.perform op).2.registry.find? new.id = some new
    rw [find?_perform]
    cases op with
    | createTenant now id name =>
      simp only [LockTurn.registers?] at h
      split at h
      · next hroom =>
        cases h
        exact if_pos ⟨rfl, hroom⟩
      · cases h
    | _ => cases h
  | _ => cases h

end Laws

/-! ### Runs -/

/-- A store, and for each caller what is left of its call. -/
structure Concurrent where
  store : Store
  left : List (List LockTurn)

/-- A turn that was taken: by whom, and which store it met. -/
structure Taken where
  caller : Nat
  met : Store
  turn : LockTurn

namespace Concurrent

/-- Calls that have not begun yet. -/
def start (s : Store) (calls : List Operation) : Concurrent :=
  ⟨s, calls.map Operation.turns⟩

/-- The turn of a caller, if its call is not over. -/
def taken? (c : Concurrent) (n : Nat) : Option Taken :=
  match c.left[n]? with
  | some (a :: _) => some ⟨n, c.store, a⟩
  | _ => none

/-- A caller takes its turn, if its call is not over. -/
def step (c : Concurrent) (n : Nat) : Concurrent :=
  match c.left[n]? with
  | some (a :: rest) => ⟨a.effect c.store, c.left.set n (if a.goesOn c.store then rest else [])⟩
  | _ => c

/-- What a schedule leads to. -/
def after (c : Concurrent) (schedule : List Nat) : Concurrent :=
  schedule.foldl step c

/-- The turns that are taken in a schedule. -/
def history (c : Concurrent) : List Nat → List Taken
  | [] => []
  | n :: rest => (c.taken? n).toList ++ (c.step n).history rest

variable {c : Concurrent} {n : Nat} {schedule : List Nat}

/-- A schedule is a shorter one and its last turn. -/
theorem after_concat (c : Concurrent) (schedule : List Nat) (n : Nat) :
    c.after (schedule ++ [n]) = (c.after schedule).step n :=
  List.foldl_concat ..

/-- A history is that of a shorter schedule and, unless it was idle, the last turn. -/
theorem history_concat (c : Concurrent) (schedule : List Nat) (n : Nat) :
    c.history (schedule ++ [n]) = c.history schedule ++ ((c.after schedule).taken? n).toList := by
  induction schedule generalizing c with
  | nil => exact List.append_nil _
  | cons m rest ih =>
    show (c.taken? m).toList ++ (c.step m).history (rest ++ [n])
      = (c.taken? m).toList ++ (c.step m).history rest ++ _
    rw [ih, ← List.append_assoc]
    rfl

/-- A client that is done does nothing. -/
theorem step_of_over (h : c.left[n]? = some []) : c.step n = c := by
  unfold step
  rw [h]

/-- A caller whose call is over changes nothing. -/
theorem step_of_taken?_none (h : c.taken? n = none) : c.step n = c := by
  unfold taken? at h
  unfold step
  split
  · next hleft => rw [hleft] at h; cases h
  · rfl

/-- A turn that is taken is the next one of its caller, and has its effect on the store that it met. -/
theorem step_of_taken? {d : Taken} (h : c.taken? n = some d) :
    d.caller = n ∧ d.met = c.store ∧ ∃ rest, c.left[n]? = some (d.turn :: rest)
      ∧ c.step n
        = ⟨d.turn.effect c.store, c.left.set n (if d.turn.goesOn c.store then rest else [])⟩ := by
  unfold taken? at h
  unfold step
  split at h
  · next a rest hleft =>
    cases h
    exact ⟨rfl, rfl, rest, hleft, rfl⟩
  · cases h

/-- A client that is not done takes the next of its turns. -/
theorem step_of_left {a : LockTurn} {rest : List LockTurn} (h : c.left[n]? = some (a :: rest)) :
    c.step n = ⟨a.effect c.store, c.left.set n (if a.goesOn c.store then rest else [])⟩ := by
  unfold step
  rw [h]

/-- A caller whose next turn is known takes it. -/
theorem step_set {s : Store} {left : List (List LockTurn)} (hn : n < left.length) (a : LockTurn)
    (rest : List LockTurn) :
    (⟨s, left.set n (a :: rest)⟩ : Concurrent).step n
      = ⟨a.effect s, left.set n (if a.goesOn s then rest else [])⟩ := by
  rw [step_of_left (List.getElem?_set_self hn), List.set_set]

/-- **A call that is not interrupted does what its operation does.** -/
theorem after_turns {op : Operation} (h : c.left[n]? = some op.turns) :
    c.after (List.replicate op.turns.length n) = ⟨(c.store.perform op).2, c.left.set n []⟩ := by
  cases hremoved : op.removed? with
  | none =>
    rw [Operation.turns_of_single hremoved] at h ⊢
    show c.step n = _
    rw [step_of_left h]
    rfl
  | some id =>
    obtain rfl := Operation.eq_deleteTenant hremoved
    have hn : n < c.left.length := (List.getElem?_eq_some_iff.mp h).1
    rw [Operation.turns_deleteTenant] at h ⊢
    show ((c.step n).step n).step n = ⟨(c.store.settle (c.store.deleteTenant id)).2, _⟩
    rw [step_of_left h, settle_deleteTenant]
    rw [effect_unregister, show (LockTurn.unregister id).goesOn c.store
      = (c.store.registry.find? id).isSome from rfl]
    split
    · rw [step_set hn]
      exact step_set hn _ _
    · -- There is no such tenant, so the call is over.
      have hover : ∀ s, (⟨s, c.left.set n []⟩ : Concurrent).step n = ⟨s, c.left.set n []⟩ :=
        fun s => step_of_over (List.getElem?_set_self hn)
      rw [hover, hover]

/-- A turn of a run was taken when the turns before it had been taken. -/
theorem exists_reached {k : Nat} {d : Taken} (h : (c.history schedule)[k]? = some d) :
    ∃ earlier, c.history earlier = (c.history schedule).take k
      ∧ d.met = (c.after earlier).store
      ∧ ∃ rest, (c.after earlier).left[d.caller]? = some (d.turn :: rest) := by
  induction schedule using List.reverseRecOn with
  | nil => cases h
  | append_singleton schedule n ih =>
    rw [history_concat] at h ⊢
    cases htaken : (c.after schedule).taken? n with
    | none =>
      rw [htaken, Option.toList_none, List.append_nil] at h
      rw [Option.toList_none, List.append_nil]
      exact ih h
    | some e =>
      rw [htaken, Option.toList_some] at h
      rw [Option.toList_some]
      by_cases hk : k < (c.history schedule).length
      · rw [List.getElem?_append_left hk] at h
        rw [List.take_append_of_le_length (Nat.le_of_lt hk)]
        exact ih h
      · -- It is the last turn.
        rw [List.getElem?_append_right (by omega), List.getElem?_singleton] at h
        split at h
        · next hlast =>
          cases h
          obtain ⟨rfl, hmet, rest, hleft, -⟩ := step_of_taken? htaken
          have hall : k = (c.history schedule).length := by omega
          exact ⟨schedule, by rw [hall, List.take_left], hmet, rest, hleft⟩
        · cases h

/-! ### What holds after a run -/

/-- What a turn begins, or does not end, holds after a run if it was begun and not ended since, or held
    before the run and was never ended. -/
theorem holds_after_iff (holds : Store → Prop) {begins ends : Taken → Prop}
    (law : ∀ d : Taken, holds (d.turn.effect d.met) ↔ begins d ∨ holds d.met ∧ ¬ ends d)
    (c : Concurrent) (schedule : List Nat) :
    holds (c.after schedule).store
      ↔ Since begins ends (c.history schedule)
        ∨ holds c.store ∧ ∀ d ∈ c.history schedule, ¬ ends d := by
  induction schedule using List.reverseRecOn with
  | nil => simp [after, history, not_since_nil]
  | append_singleton schedule n ih =>
    rw [after_concat, history_concat]
    cases htaken : (c.after schedule).taken? n with
    | none =>
      rw [step_of_taken?_none htaken, Option.toList_none, List.append_nil]
      exact ih
    | some d =>
      obtain ⟨-, hmet, rest, -, hstep⟩ := step_of_taken? htaken
      rw [hstep, Option.toList_some, since_concat, List.forall_mem_append, List.forall_mem_singleton,
        ← hmet, law, hmet, ih]
      tauto

/-- A relationship is stored after a run if it was written and not removed since, or was stored before
    and never removed. -/
theorem mem_tuples_after_iff (c : Concurrent) (schedule : List Nat) (tenant : String) (t : Tuple) :
    t ∈ (c.after schedule).store.tuples tenant
      ↔ Since (fun d => d.turn.writes tenant t = true)
          (fun d => d.turn.deletes tenant t = true ∨ d.turn = .dropTuples tenant) (c.history schedule)
        ∨ t ∈ c.store.tuples tenant ∧ ∀ d ∈ c.history schedule,
            ¬ (d.turn.deletes tenant t = true ∨ d.turn = .dropTuples tenant) :=
  holds_after_iff (fun s => t ∈ s.tuples tenant) (fun _ => mem_tuples_effect) c schedule

/-- A tenant has a schema after a run if it was written and not forgotten since, or was there before
    and never forgotten. -/
theorem mem_schemas_after_iff (c : Concurrent) (schedule : List Nat) (tenant : String)
    (v : SchemaVersion) :
    v ∈ (c.after schedule).store.schemas tenant
      ↔ Since (fun d => d.turn.draft? tenant = some v) (fun d => d.turn = .dropSchemas tenant)
          (c.history schedule)
        ∨ v ∈ c.store.schemas tenant ∧ ∀ d ∈ c.history schedule, d.turn ≠ .dropSchemas tenant :=
  holds_after_iff (fun s => v ∈ s.schemas tenant) (fun _ => mem_schemas_effect) c schedule

/-! ### Who forgets -/

/-- What may be left of a call, given the turns so far: nothing, all of it, or the last parts of a
    removal of which the first part took the tenant out. -/
inductive Ready (past : List Taken) (n : Nat) : List LockTurn → Prop
  | finished : Ready past n []
  | fresh (op : Operation) : Ready past n op.turns
  | begun {id : String} {rest : List LockTurn} {x : Taken} (mem : x ∈ past) (caller : x.caller = n)
      (removed : x.turn.unregisters x.met id = true)
      (suffix : rest <:+ [.dropTuples id, .dropSchemas id]) : Ready past n rest

/-- A client that is ready stays so while others take their turns. -/
theorem Ready.mono {past : List Taken} {rest : List LockTurn} (h : Ready past n rest) (more : List Taken) :
    Ready (past ++ more) n rest := by
  cases h with
  | finished => exact .finished
  | fresh op => exact .fresh op
  | begun mem caller removed suffix =>
    exact .begun (List.mem_append_left _ mem) caller removed suffix

/-- A caller that takes its turn has the rest left. -/
theorem Ready.step {past : List Taken} {d : Taken} {rest : List LockTurn}
    (h : Ready past d.caller (d.turn :: rest)) :
    Ready (past ++ [d]) d.caller (if d.turn.goesOn d.met then rest else []) := by
  have hlast : d ∈ past ++ [d] := by simp
  split
  · next hgoes =>
    generalize hturns : d.turn :: rest = turns at h
    cases h with
    | finished => cases hturns
    | fresh op =>
      cases hremoved : op.removed? with
      | none =>
        rw [Operation.turns_of_single hremoved, List.cons.injEq] at hturns
        rw [hturns.2]
        exact .finished
      | some id =>
        obtain rfl := Operation.eq_deleteTenant hremoved
        rw [Operation.turns_deleteTenant, List.cons.injEq] at hturns
        obtain ⟨hturn, rfl⟩ := hturns
        rw [hturn] at hgoes
        exact .begun hlast rfl (unregisters_iff.mpr ⟨hturn, hgoes⟩) (List.suffix_refl _)
    | begun mem caller removed suffix =>
      subst hturns
      exact .begun (List.mem_append_left _ mem) caller removed ((List.suffix_cons _ _).trans suffix)
  · exact .finished

/-- **Whoever has parts of a removal left has taken the tenant out.** -/
theorem ready_after (s : Store) (calls : List Operation) (schedule : List Nat) :
    ∀ n rest, ((start s calls).after schedule).left[n]? = some rest →
      Ready ((start s calls).history schedule) n rest := by
  induction schedule using List.reverseRecOn with
  | nil =>
    intro n rest hleft
    have hmap : (calls.map Operation.turns)[n]? = some rest := hleft
    rw [List.getElem?_map, Option.map_eq_some_iff] at hmap
    obtain ⟨op, -, rfl⟩ := hmap
    exact .fresh op
  | append_singleton schedule m ih =>
    intro n rest hleft
    rw [after_concat] at hleft
    rw [history_concat]
    cases htaken : ((start s calls).after schedule).taken? m with
    | none =>
      rw [step_of_taken?_none htaken] at hleft
      exact (ih n rest hleft).mono _
    | some d =>
      obtain ⟨rfl, hmet, tail, hbefore, hstep⟩ := step_of_taken? htaken
      rw [hstep] at hleft
      dsimp only at hleft
      rw [List.getElem?_set] at hleft
      split at hleft
      · next hsame =>
        -- It was this caller's turn.
        subst hsame
        split at hleft
        · cases hleft
          rw [← hmet]
          exact (ih d.caller _ hbefore).step
        · cases hleft
      · exact (ih n rest hleft).mono _

/-- **Whoever forgets what a tenant has, has taken the tenant out before.** -/
theorem exists_unregisters {s : Store} {calls : List Operation} {k : Nat} {d : Taken} {id : String}
    (h : ((start s calls).history schedule)[k]? = some d)
    (drops : d.turn = .dropTuples id ∨ d.turn = .dropSchemas id) :
    ∃ m x, m < k ∧ ((start s calls).history schedule)[m]? = some x ∧ x.caller = d.caller
      ∧ x.turn.unregisters x.met id = true := by
  obtain ⟨earlier, hpast, -, rest, hleft⟩ := exists_reached h
  have hready := ready_after s calls earlier _ _ hleft
  rw [hpast] at hready
  generalize hturns : d.turn :: rest = turns at hready
  cases hready with
  | finished => cases hturns
  | fresh op =>
    -- No call begins with forgetting.
    cases hremoved : op.removed? with
    | none =>
      rw [Operation.turns_of_single hremoved, List.cons.injEq] at hturns
      rw [hturns.1] at drops
      simp at drops
    | some id' =>
      obtain rfl := Operation.eq_deleteTenant hremoved
      rw [Operation.turns_deleteTenant, List.cons.injEq] at hturns
      rw [hturns.1] at drops
      simp at drops
  | @begun id' _ x mem caller removed suffix =>
    subst hturns
    have hid : id' = id := by
      have hmem := suffix.subset List.mem_cons_self
      rcases drops with hdrop | hdrop
      · simpa [hdrop, eq_comm] using hmem
      · simpa [hdrop, eq_comm] using hmem
    obtain ⟨m, hm, hx⟩ := List.mem_take_iff_getElem.mp mem
    have hlt : m < k ∧ m < ((start s calls).history schedule).length := by omega
    exact ⟨m, x, hlt.1, by rw [List.getElem?_eq_getElem hlt.2, hx], caller, hid ▸ removed⟩

/-- **A tenant that is registered has been registered, and not been removed since.** -/
theorem since_registers {i : Nat} {e : Taken} {old new : Tenant}
    (he : (c.history schedule)[i]? = some e) (registered : e.turn.registers? e.met = some old)
    (h : (c.after schedule).store.registry.find? old.id = some new) :
    Since (fun d => d.turn.registers? d.met = some new)
      (fun d => d.turn.unregisters d.met old.id = true) ((c.history schedule).drop i) := by
  induction schedule using List.reverseRecOn with
  | nil => cases he
  | append_singleton schedule n ih =>
    rw [after_concat] at h
    rw [history_concat] at he ⊢
    cases htaken : (c.after schedule).taken? n with
    | none =>
      rw [step_of_taken?_none htaken] at h
      rw [htaken, Option.toList_none, List.append_nil] at he
      rw [Option.toList_none, List.append_nil]
      exact ih he h
    | some d =>
      obtain ⟨-, hmet, rest, -, hstep⟩ := step_of_taken? htaken
      rw [hstep] at h
      rw [htaken, Option.toList_some] at he
      rw [Option.toList_some]
      by_cases hi : i < (c.history schedule).length
      · rw [List.getElem?_append_left hi] at he
        rw [List.drop_append_of_le_length (Nat.le_of_lt hi), since_concat, hmet]
        rcases find?_effect h with hnew | ⟨hkept, hstays⟩
        · exact .inl hnew
        · exact .inr ⟨ih he hkept, by simp [hstays]⟩
      · -- The last turn is the one that registered it.
        rw [List.getElem?_append_right (by omega), List.getElem?_singleton] at he
        split at he
        · next hlast =>
          cases he
          rw [← hmet, find?_of_registers? registered, Option.some.injEq] at h
          have hall : i = (c.history schedule).length := by omega
          rw [hall, List.drop_left]
          exact ⟨[], e, [], rfl, h ▸ registered, by simp⟩
        · cases he

/-! ### Removals at the same time -/

section Removal

variable {past : List Taken} {id : String} {i j k m : Nat}

/-- At place `k` a caller does a part of the removal of a tenant that it began at place `m`, where it
    took the tenant out of the registry. -/
structure Removal (past : List Taken) (id : String) (part : LockTurn) (m k : Nat) : Prop where
  order : m < k
  same : ∃ x d, past[m]? = some x ∧ past[k]? = some d ∧ x.caller = d.caller
    ∧ x.turn.unregisters x.met id = true ∧ d.turn = part

/-- The tenant that was found under an id at place `m` had been registered at place `i` or later, and
    not been removed since. -/
def RegisteredFrom (past : List Taken) (id : String) (i m : Nat) : Prop :=
  ∃ x tenant, past[m]? = some x ∧ x.met.registry.find? id = some tenant
    ∧ Since (fun d => d.turn.registers? d.met = some tenant)
        (fun d => d.turn.unregisters d.met id = true) ((past.take m).drop i)

/-- Who forgets what a tenant has is at a removal. If the id had been registered, the removal has taken
    out that tenant or a later one, or it had begun before. -/
theorem removal_of_drops {s : Store} {calls : List Operation} {e d : Taken} {part : LockTurn}
    {tenant : Tenant} (he : ((start s calls).history schedule)[i]? = some e)
    (registered : e.turn.registers? e.met = some tenant)
    (hd : ((start s calls).history schedule)[k]? = some d) (hpart : d.turn = part)
    (drops : part = .dropTuples tenant.id ∨ part = .dropSchemas tenant.id) (hik : i < k) :
    ∃ m, Removal ((start s calls).history schedule) tenant.id part m k
      ∧ (RegisteredFrom ((start s calls).history schedule) tenant.id i m ∨ m < i ∧ i < k) := by
  obtain ⟨m, x, hmk, hx, hcaller, hremoved⟩ := exists_unregisters hd (hpart ▸ drops)
  refine ⟨m, ⟨hmk, x, d, hx, hd, hcaller, hremoved, hpart⟩, ?_⟩
  obtain ⟨hturn, hfound⟩ := unregisters_iff.mp hremoved
  rcases Nat.lt_trichotomy m i with hbefore | rfl | hafter
  · exact .inr ⟨hbefore, hik⟩
  · -- One turn does not both register a tenant and take it out.
    obtain rfl : e = x := Option.some.inj (he.symm.trans hx)
    rw [hturn] at registered
    cases registered
  · left
    obtain ⟨earlier, hpast, hmet, -⟩ := exists_reached hx
    obtain ⟨new, hnew⟩ := Option.isSome_iff_exists.mp hfound
    have he' : ((start s calls).history earlier)[i]? = some e := by
      rw [hpast, List.getElem?_take, if_pos hafter, he]
    refine ⟨x, new, hx, hnew, ?_⟩
    rw [← hpast]
    exact since_registers he' registered (hmet ▸ hnew)

/-- **What a removal can take from a tenant that was registered before.** Whatever calls there are, and
    however their turns follow one another: what is written for an id after a tenant of that id was
    registered is stored at the end, unless

    * it was deleted after it was written, or
    * after it was written, a call forgot it as a part of a removal; what this call took out of the
      registry was that tenant or a later one, or it was an earlier one and the tenant was registered in
      the middle of the removal.

    The same holds of schemas, which only removals forget. -/
theorem kept_unless_removed (s : Store) (calls : List Operation) (schedule : List Nat) :
    let run := start s calls
    let past := run.history schedule
    let final := (run.after schedule).store
    ∀ (i j : Nat) (e w : Taken) (tenant : Tenant), past[i]? = some e →
      e.turn.registers? e.met = some tenant → past[j]? = some w → i < j →
      (∀ t, w.turn.writes tenant.id t = true →
        t ∈ final.tuples tenant.id
          ∨ (∃ k d, j < k ∧ past[k]? = some d ∧ d.turn.deletes tenant.id t = true)
          ∨ ∃ m k, j < k ∧ Removal past tenant.id (.dropTuples tenant.id) m k
              ∧ (RegisteredFrom past tenant.id i m ∨ m < i ∧ i < k))
      ∧ ∀ v, w.turn.draft? tenant.id = some v →
        v ∈ final.schemas tenant.id
          ∨ ∃ m k, j < k ∧ Removal past tenant.id (.dropSchemas tenant.id) m k
              ∧ (RegisteredFrom past tenant.id i m ∨ m < i ∧ i < k) := by
  intro run past final i j e w tenant he registered hw hij
  constructor
  · intro t hwrites
    by_cases hlost : ∃ k d, j < k ∧ past[k]? = some d
        ∧ (d.turn.deletes tenant.id t = true ∨ d.turn = .dropTuples tenant.id)
    · right
      obtain ⟨k, d, hjk, hd, hdeletes | hdrops⟩ := hlost
      · exact .inl ⟨k, d, hjk, hd, hdeletes⟩
      · obtain ⟨m, hremoval⟩ := removal_of_drops he registered hd hdrops (.inl rfl) (Nat.lt_trans hij hjk)
        exact .inr ⟨m, k, hjk, hremoval⟩
    · left
      refine (mem_tuples_after_iff run schedule tenant.id t).mpr (.inl ?_)
      exact since_of_getElem? hw hwrites fun k d hjk hd hends => hlost ⟨k, d, hjk, hd, hends⟩
  · intro v hdraft
    by_cases hlost : ∃ k d, j < k ∧ past[k]? = some d ∧ d.turn = .dropSchemas tenant.id
    · right
      obtain ⟨k, d, hjk, hd, hdrops⟩ := hlost
      obtain ⟨m, hremoval⟩ := removal_of_drops he registered hd hdrops (.inr rfl) (Nat.lt_trans hij hjk)
      exact ⟨m, k, hjk, hremoval⟩
    · left
      refine (mem_schemas_after_iff run schedule tenant.id v).mpr (.inl ?_)
      exact since_of_getElem? hw hdraft fun k d hjk hd hends => hlost ⟨k, d, hjk, hd, hends⟩

/-- Alice may view a document. -/
def granted : Tuple :=
  ⟨some ⟨"document", "1"⟩, "view", some ⟨"user", "alice", ""⟩⟩

/-- A tenant is registered, and removed by the second caller; then it is registered again, and written
    to. -/
def overtaken : Concurrent :=
  start (initial 0) [.createTenant 0 "t2" "two", .deleteTenant "t2", .createTenant 1 "t2" "two",
    .write "t2" [granted], .writeSchema "t2" "entity user {}" "v1"]

/-- The second caller is interrupted when it has taken the tenant out of the registry. -/
def late : List Nat := [0, 1, 2, 3, 4, 1, 1]

/-- The relationship that is lost was forgotten in a removal that had begun before. -/
theorem kept_unless_removed_late :
    ∃ m k, 3 < k ∧ Removal (overtaken.history late) "t2" (.dropTuples "t2") m k
      ∧ (RegisteredFrom (overtaken.history late) "t2" 2 m ∨ m < 2 ∧ 2 < k) := by
  have hnone : ∀ d ∈ overtaken.history late, d.turn.deletes "t2" granted = false := by decide
  obtain ⟨htuples, -⟩ := kept_unless_removed (initial 0) [.createTenant 0 "t2" "two", .deleteTenant "t2",
    .createTenant 1 "t2" "two", .write "t2" [granted], .writeSchema "t2" "entity user {}" "v1"] late
    2 3 _ _ ⟨"t2", "two", 1⟩ rfl rfl rfl (by decide)
  rcases htuples granted rfl with hkept | ⟨k, d, -, hd, hdeletes⟩ | hremoval
  · exact absurd hkept List.not_mem_nil
  · rw [hnone d (List.mem_of_getElem? hd)] at hdeletes
    cases hdeletes
  · exact hremoval

/-- **A removal that is overtaken takes what was written for the next tenant of the id.** The tenant is
    registered at the end, nothing was deleted after it was written, and the only tenant that was taken
    out of the registry is the one before; but the relationship and the schema are gone. -/
theorem late_removal :
    let past := overtaken.history late
    let final := (overtaken.after late).store
    (past.map fun d => d.turn.registers? d.met)
        = [some ⟨"t2", "two", 0⟩, none, some ⟨"t2", "two", 1⟩, none, none, none, none]
    ∧ (past.map fun d => d.turn.unregisters d.met "t2")
        = [false, true, false, false, false, false, false]
    ∧ (past.map fun d => d.turn.writes "t2" granted)
        = [false, false, false, true, false, false, false]
    ∧ (past.map fun d => d.turn.draft? "t2")
        = [none, none, none, none, some ⟨"v1", "entity user {}"⟩, none, none]
    ∧ (∀ d ∈ past, d.turn.deletes "t2" granted = false)
    ∧ final.registry.find? "t2" = some ⟨"t2", "two", 1⟩
    ∧ final.tuples "t2" = [] ∧ final.schemas "t2" = [] := by
  decide

end Removal

end Concurrent

end Rebac.Store
