import Rebac.Proofs.Service.Stored
import Rebac.Proofs.Store.Check
import Rebac.Proofs.Store.Schemas

namespace Rebac.Service

open Rebac.Message Rebac.Store

/-!
# What a new tenant starts with

Relationships and schemas may be stored under an id that no tenant has, and a registration leaves them
alone. So a new tenant starts with what was stored under its id while no tenant had it.

* `Remains`, `Stands` — a relationship, a schema that was stored and has not been removed since;
  `mem_tuples_after` says that what remains is what is stored.
* `Stray` — something was stored under an id that no tenant had; if a tenant's id is free, all that is
  left under it is stray (`stray_of_remains`, `stray_of_stands`).
* `ShowsNothing` — what the services say of a tenant that has nothing; `showsNothing_of_empty`.
* `created_tenant_holds` — **a new tenant starts with what was left under its id**;
  `new_tenant_not_empty` is a tenant that starts with something.
-/

/-! ### What is left under an id -/

variable {tenant : String} {past : List (Store × Operation)}

/-- A relationship remains for a tenant: it was written to the tenant, and neither removed nor gone with
    the tenant since. -/
def Remains (tenant : String) (t : Tuple) (past : List (Store × Operation)) : Prop :=
  Since (fun h => h.2.writes tenant t = true) (fun h => h.2.removes h.1 tenant t = true) past

/-- **What is stored is what remains.** -/
theorem mem_tuples_after (now : Int64) (ops : List Operation) (tenant : String) (t : Tuple) :
    t ∈ ((initial now).after ops).tuples tenant
      ↔ Remains tenant t ((initial now).history ops) := by
  induction ops using List.reverseRecOn with
  | nil => exact ⟨fun h => absurd h List.not_mem_nil, fun h => absurd h not_since_nil⟩
  | append_singleton ops op ih =>
    rw [after_append, after_singleton, history_append, mem_perform, ih]
    show _ ↔ Since _ _ (_ ++ [((initial now).after ops, op)])
    rw [since_concat, ← Remains, Bool.not_eq_true]

/-! ### What is stored for nobody -/

/-- Something was stored under an id that no tenant had, and no tenant of that id has been removed
    since. -/
def Stray (tenant : String) (past : List (Store × Operation)) : Prop :=
  Since
    (fun h => h.1.registry.find? tenant = none
      ∧ ((∃ t, h.2.writes tenant t = true) ∨ ∃ v, h.2.draft? tenant = some v))
    (fun h => h.2.retires h.1 tenant = true) past

/-- The removal of a tenant removes all of its relationships. -/
theorem removes_of_retires {s : Store} {op : Operation} (t : Tuple)
    (h : op.retires s tenant = true) : op.removes s tenant t = true := by
  cases op with
  | deleteTenant id =>
    have hboth : id = tenant ∧ (s.deleteTenant id).isOk = true := by
      simpa [Operation.retires] using h
    rw [isOk_deleteTenant] at hboth
    simpa [Operation.removes] using hboth
  | _ => exact absurd h Bool.false_ne_true

/-- A tenant stays registered until it is removed. -/
theorem isSome_find?_perform {s : Store} {op : Operation}
    (registered : (s.registry.find? tenant).isSome = true) (kept : op.retires s tenant = false) :
    ((s.perform op).2.registry.find? tenant).isSome = true := by
  rw [find?_perform]
  cases op with
  | createTenant now id name =>
    dsimp only
    split
    · rfl
    · exact registered
  | deleteTenant id =>
    dsimp only
    split
    · next hid =>
      have hgone : Operation.retires s tenant (.deleteTenant id) = true := by
        subst hid
        simpa [Operation.retires, isOk_deleteTenant] using registered
      rw [hgone] at kept
      exact absurd kept.symm Bool.false_ne_true
    · exact registered
  | _ => exact registered

/-- Who was registered at some point of a run and has not been removed from there on is registered. -/
theorem isSome_find?_after (now : Int64) (ops : List Operation)
    (h : Since
      (fun h => (h.1.registry.find? tenant).isSome = true ∧ h.2.retires h.1 tenant = false)
      (fun h => h.2.retires h.1 tenant = true) ((initial now).history ops)) :
    (((initial now).after ops).registry.find? tenant).isSome = true := by
  induction ops using List.reverseRecOn with
  | nil => exact absurd h not_since_nil
  | append_singleton ops op ih =>
    rw [history_append] at h
    rw [after_append, after_singleton]
    rcases since_concat.mp h with ⟨hregistered, hkept⟩ | ⟨hsince, hkept⟩
    · exact isSome_find?_perform hregistered hkept
    · exact isSome_find?_perform (ih hsince) (by simpa using hkept)

/-- **What was stored under a free id was stored for nobody.** Whoever had the id then would still be
    registered. -/
theorem stray_of_since {now : Int64} {ops : List Operation} {stores ends : Store × Operation → Prop}
    (free : ((initial now).after ops).registry.find? tenant = none)
    (hstores : ∀ h, stores h →
      (∃ t, h.2.writes tenant t = true) ∨ ∃ v, h.2.draft? tenant = some v)
    (hends : ∀ h, h.2.retires h.1 tenant = true → ends h)
    (h : Since stores ends ((initial now).history ops)) :
    Stray tenant ((initial now).history ops) := by
  obtain ⟨before, a, later, hpast, ha, hlater⟩ := h
  have hkept : ∀ b ∈ later, ¬ b.2.retires b.1 tenant = true :=
    fun b hb hgone => hlater b hb (hends b hgone)
  refine ⟨before, a, later, hpast, ⟨?_, hstores a ha⟩, hkept⟩
  by_contra hregistered
  -- What stores something removes nobody.
  have hno : a.2.retires a.1 tenant = false := by
    rcases a with ⟨s, op⟩
    cases op with
    | deleteTenant id => simpa [Operation.writes, Operation.draft?] using hstores _ ha
    | _ => rfl
  have hstill := isSome_find?_after now ops
    ⟨before, a, later, hpast, ⟨Option.isSome_iff_ne_none.mpr hregistered, hno⟩, hkept⟩
  rw [free] at hstill
  exact absurd hstill Bool.false_ne_true

/-- A relationship that is there while nobody has the id is a stray one. -/
theorem stray_of_remains {now : Int64} {ops : List Operation} {t : Tuple}
    (free : ((initial now).after ops).registry.find? tenant = none)
    (h : Remains tenant t ((initial now).history ops)) : Stray tenant ((initial now).history ops) :=
  stray_of_since free (fun _ hwrites => .inl ⟨t, hwrites⟩) (fun _ => removes_of_retires t) h

/-- A schema that stands while nobody has the id is a stray one. -/
theorem stray_of_stands {now : Int64} {ops : List Operation} {v : SchemaVersion}
    (free : ((initial now).after ops).registry.find? tenant = none)
    (h : Stands tenant v ((initial now).history ops)) : Stray tenant ((initial now).history ops) :=
  stray_of_since free (fun _ hdraft => .inr ⟨v, hdraft⟩) (fun _ hgone => hgone) h

/-! ### Tenants without anything -/

/-- What the services say of a tenant that has nothing. Whatever call about it reaches its handler, a
    reading finds no relationship, unless its token cannot be read, a check is denied, and no schema is
    found. -/
structure ShowsNothing (b : Backend) (tenant : String) : Prop where
  reading : ∀ around metadata (m : RelationshipReadRequest), m.tenantId = tenant →
    b.passes around metadata .readRelationships m = true →
    (b.call .direct around metadata .readRelationships m).1
      = match offset? m.continuousToken with
        | some _ => .answer ⟨[], ""⟩
        | none => .failure (ServiceError.badToken m.continuousToken).status
  check : ∀ around metadata (m : CheckRequest), m.tenantId = tenant →
    b.passes around metadata .check m = true →
    (b.call .direct around metadata .check m).1 = .answer ⟨.denied, some ⟨1⟩⟩
  schema : ∀ around metadata (m : SchemaReadRequest), m.tenantId = tenant →
    b.passes around metadata .readSchema m = true →
    ∃ message, (b.call .direct around metadata .readSchema m).1 = .failure ⟨.notFound, message⟩

section

variable {b : Backend} {e : Evaluator} {around : Surroundings} {metadata : Metadata} {r : Rpc}
  {m : r.Request}

/-- A call that reaches its handler has its outcome, as the caller sees it. -/
theorem outcome_of_passes (h : b.passes around metadata r m = true) :
    (b.call e around metadata r m).1 = (r.handle e around.context b.store m).1.recovered := by
  obtain ⟨g', hrun⟩ := run_of_passes (fun s => r.handle e around.context s m) b.store h
  exact congrArg (·.1) hrun

/-- No schema of a tenant without schemas is found. -/
theorem readSchema_of_empty {s : Store} (empty : s.schemas tenant = []) (version : String) :
    ∃ failure, s.readSchema tenant version = .error failure ∧ failure.code = .notFound := by
  cases hread : s.readSchema tenant version with
  | ok v =>
    have hfound := readSchema_ok_iff.mp hread
    rw [empty] at hfound
    simp at hfound
  | error failure => exact ⟨failure, rfl, code_of_readSchema hread⟩

/-- **A tenant that has nothing shows nothing.** -/
theorem showsNothing_of_empty (tuples : b.store.tuples tenant = [])
    (schemas : b.store.schemas tenant = []) : ShowsNothing b tenant where
  reading around metadata m hm hpasses := by
    rw [outcome_of_passes hpasses]
    have hnone : matching b.store m = [] := by rw [matching, hm, tuples, List.filter_nil]
    cases hoffset : offset? m.continuousToken with
    | some start =>
      rw [handle_read hoffset, hnone]
      simp [Outcome.recovered]
    | none =>
      show Outcome.recovered (.ofExcept (((Page.mk m.pageSize m.continuousToken).cut
        (matching b.store m)).map _)) = _
      rw [Page.cut, hoffset]
      rfl
  check around metadata m hm hpasses := by
    rw [outcome_of_passes hpasses]
    -- A valid check has an entity and a subject.
    obtain ⟨-, -, ⟨e, entity, -⟩, -, u, subject, -⟩ :=
      Rule.valid_check_iff.mp (valid_of_passes hpasses)
    show Outcome.recovered (.ofExcept (b.store.check m)) = _
    rw [check_eq b.store entity subject, hm, tuples]
    rfl
  schema around metadata m hm hpasses := by
    rw [outcome_of_passes hpasses]
    show ∃ message, Outcome.recovered (.ofExcept ((b.store.readSchema m.tenantId _).map _)) = _
    obtain ⟨failure, hread, hcode⟩ := readSchema_of_empty (hm ▸ schemas) _
    rw [hread]
    refine ⟨failure.message, ?_⟩
    rw [← hcode]
    rfl

end

/-! ### New tenants -/

/-- **A new tenant starts with what was left under its id.** After any run of calls, when a tenant is
    registered:

    * its id was free, and is the tenant's now;
    * it has the relationships and the schemas that were stored under its id and have not been removed
      since, by themselves or with an earlier tenant;
    * if nothing is left, it shows nothing: its relationships are read as none, its checks are denied
      and its schema is not found;
    * nothing is left unless something was stored under the id while no tenant had it, and no tenant of
      that id has been removed since. -/
theorem created_tenant_holds (now : Int64) (gate : Gate) (events : List Session.Event)
    (around : Surroundings) (metadata : Metadata) (id name : String)
    {response : TenantCreateResponse}
    (created : (((Session.start now gate).after .direct events).backend.call .direct around metadata
      .createTenant ⟨id, name⟩).1 = .answer response) :
    let b := ((Session.start now gate).after .direct events).backend
    let past := (initial now).history ((Session.start now gate).asked .direct events)
    let b' := (b.call .direct around metadata .createTenant ⟨id, name⟩).2
    (b.store.registry.find? id = none
      ∧ b'.store.registry.find? id = some ⟨id, name, around.context.now⟩)
    ∧ (∀ t, t ∈ b'.store.tuples id ↔ Remains id t past)
    ∧ (∀ v, v ∈ b'.store.schemas id ↔ Stands id v past)
    ∧ ((∀ t, ¬ Remains id t past) → (∀ v, ¬ Stands id v past) → ShowsNothing b' id)
    ∧ (¬ Stray id past → (∀ t, ¬ Remains id t past) ∧ ∀ v, ¬ Stands id v past) := by
  intro b past b'
  have hstore : b.store = (initial now).after ((Session.start now gate).asked .direct events) :=
    Session.store_after _ events
  obtain ⟨hfree, hafter⟩ := store_created created
  have hremains : ∀ t, t ∈ b'.store.tuples id ↔ Remains id t past := by
    intro t
    rw [← mem_tuples_after, ← hstore, hafter]
    rfl
  have hstands : ∀ v, v ∈ b'.store.schemas id ↔ Stands id v past := by
    intro v
    rw [← mem_schemas_after, ← hstore, hafter]
    rfl
  refine ⟨⟨hfree, ?_⟩, hremains, hstands, ?_, ?_⟩
  · rw [hafter]
    exact (find?_insert hfree id).trans (if_pos rfl)
  · intro hnone hblank
    refine showsNothing_of_empty ?_ ?_
    · exact List.eq_nil_iff_forall_not_mem.mpr fun t ht => hnone t ((hremains t).mp ht)
    · exact List.eq_nil_iff_forall_not_mem.mpr fun v hv => hblank v ((hstands v).mp hv)
  · intro hstray
    have hfree' : ((initial now).after ((Session.start now gate).asked .direct events)).registry.find? id
        = none := hstore ▸ hfree
    exact ⟨fun t ht => hstray (stray_of_remains hfree' ht),
      fun v hv => hstray (stray_of_stands hfree' hv)⟩

section Returning

/-- Nothing of interest around a call. -/
def quiet : Surroundings := ⟨⟨0, .unreachable⟩, ⟨0, ""⟩⟩

/-- A tenant is registered and written to, and removed again. -/
def passingThrough : List Session.Event :=
  [.call .createTenant ⟨"t2", "two"⟩ quiet [],
    .call .writeData ⟨"t2", some {}, [viewing "1"]⟩ quiet [],
    .call .deleteTenant ⟨"t2"⟩ quiet []]

/-- A relationship and a schema are written for a tenant that nobody has registered. -/
def nobodys : List Session.Event :=
  [.call .writeData ⟨"t2", some {}, [viewing "2"]⟩ quiet [],
    .call .writeSchema ⟨"t2", "entity user {}"⟩ quiet []]

/-- When the tenant is registered again, nothing is left of what it had. If something was written for
    nobody in between, the tenant has that, and nothing else. -/
theorem created_tenant_holds_again :
    ShowsNothing ((office.after .direct passingThrough).backend.call .direct quiet []
        .createTenant ⟨"t2", "two"⟩).2 "t2"
    ∧ (let past := (initial 0).history (office.asked .direct (passingThrough ++ nobodys))
      Remains "t2" (viewing "2") past ∧ ¬ Remains "t2" (viewing "1") past
        ∧ Stands "t2" ⟨"", "entity user {}"⟩ past) := by
  have hagain : ((office.after .direct passingThrough).backend.call .direct quiet [] .createTenant
      ⟨"t2", "two"⟩).1 = .answer ⟨some ⟨"t2", "two", 0⟩⟩ := rfl
  have hlate : ((office.after .direct (passingThrough ++ nobodys)).backend.call .direct quiet []
      .createTenant ⟨"t2", "two"⟩).1 = .answer ⟨some ⟨"t2", "two", 0⟩⟩ := rfl
  obtain ⟨-, hremains, hstands, hempty, -⟩ :=
    created_tenant_holds 0 ⟨.ofRate 10, none⟩ passingThrough quiet [] "t2" "two" hagain
  obtain ⟨-, hleft, hschema, -⟩ :=
    created_tenant_holds 0 ⟨.ofRate 10, none⟩ (passingThrough ++ nobodys) quiet [] "t2" "two" hlate
  refine ⟨hempty ?_ ?_, (hleft _).mp ?_, fun h => ?_, (hschema _).mp ?_⟩
  · exact fun t ht => absurd ((hremains t).mpr ht) List.not_mem_nil
  · exact fun v hv => absurd ((hstands v).mpr hv) List.not_mem_nil
  · exact List.mem_singleton_self (viewing "2")
  · exact absurd (List.mem_singleton.mp ((hleft _).mpr h)) (by decide)
  · exact List.mem_singleton_self (⟨"", "entity user {}"⟩ : SchemaVersion)

/-- A new tenant need not be empty: what was written for nobody is read, held and found as its own. -/
theorem new_tenant_not_empty :
    let created := (office.after .direct nobodys).backend.call .direct quiet [] .createTenant
      ⟨"t2", "two"⟩
    created.1 = .answer ⟨some ⟨"t2", "two", 0⟩⟩
    ∧ (created.2.call .direct quiet [] .readRelationships
        ⟨"t2", some {}, some ⟨some ⟨"document", []⟩, "", none⟩, 10, ""⟩).1
        = .answer ⟨[viewing "2"], ""⟩
    ∧ (created.2.call .direct quiet [] .check
        ⟨"t2", some ⟨"", "", 20⟩, some ⟨"document", "2"⟩, "view", some ⟨"user", "alice", ""⟩⟩).1
        = .answer ⟨.allowed, some ⟨1⟩⟩
    ∧ (created.2.call .direct quiet [] .readSchema ⟨"t2", some ⟨""⟩⟩).1
        = .answer ⟨"entity user {}", ""⟩ :=
  ⟨rfl, rfl, rfl, rfl⟩

end Returning

end Rebac.Service
