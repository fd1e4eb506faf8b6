import Rebac.Proofs.Service.Feeds
import Rebac.Proofs.Service.Pages
import Rebac.Proofs.Store.WellFormed

namespace Rebac.Service

open Rebac.Message Rebac.Rule Rebac.Store

/-!
# What the services store

Requests are validated before their handlers run, so what they leave in the store keeps the rules of
the requests that brought it.

* `proper_of_valid` — a valid message asks the store for proper operations only.
* `Session.asked`, `Session.store_after` — what a run of calls asks of the store is what it does;
  so `Session.wellFormed_reached`: **the services keep their store well-formed**.
* `read_pinpoint`, `delete_pinpoint` — a stored relationship can be read and removed.
* `stored_wellFormed` — what is stored after any run.
-/

/-! ### Calls -/

/-- **A valid message brings only well-formed data.** -/
theorem proper_of_valid {c : Rpc.Context} {r : Rpc} {m : r.Request} (h : violation? m = none) :
    ∀ op ∈ r.operations c m, op.Proper := by
  cases r with
  | writeData =>
    obtain ⟨htenant, -, -, htuples⟩ := valid_write_iff.mp h
    exact List.forall_mem_singleton.mpr ⟨htenant, htuples⟩
  | deleteData => exact List.forall_mem_singleton.mpr (valid_delete_iff.mp h).1
  | writeSchema => exact List.forall_mem_singleton.mpr (valid_writeSchema_iff.mp h)
  | createTenant => exact List.forall_mem_singleton.mpr (valid_createTenant_iff.mp h)
  | deleteTenant => exact List.forall_mem_singleton.mpr trivial
  | _ => exact fun op hop => absurd hop List.not_mem_nil

/-! ### Sessions -/

namespace Session

variable {e : Evaluator}

/-- What an event asks of the store: what its call does, if the call reaches its handler. -/
def asks (s : Session) : Event → List Operation
  | .call r message around metadata =>
    if s.backend.passes around metadata r message then r.operations around.context message else []
  | _ => []

/-- What the events of a run ask of the store. -/
def asked (e : Evaluator) (s : Session) : List Event → List Operation
  | [] => []
  | event :: rest => s.asks event ++ (s.step e event).asked e rest

/-- An event does to the store what it asks for. -/
theorem store_step (s : Session) (event : Event) :
    (s.step e event).backend.store = s.backend.store.after (s.asks event) := by
  cases event with
  | call r message around metadata =>
    show (s.backend.call e around metadata r message).2.store
      = s.backend.store.after (if _ then _ else [])
    rw [store_call]
    split <;> rfl
  | watch name request around metadata =>
    have hcall : (s.backend.call e around metadata .watch request).2.store = s.backend.store := by
      rw [store_call]
      split <;> rfl
    unfold step
    dsimp only
    split <;> exact hcall
  | poll name =>
    unfold step
    dsimp only
    split <;> rfl
  | drain => rfl

/-- **What a run of calls does to the store is what they ask for.** -/
theorem store_after (s : Session) (events : List Event) :
    (s.after e events).backend.store = s.backend.store.after (s.asked e events) := by
  induction events generalizing s with
  | nil => rfl
  | cons event rest ih =>
    show ((s.step e event).after e rest).backend.store = _
    rw [ih, store_step, asked, after_append]

/-- Only a valid call asks for anything, so what is asked for is proper. -/
theorem proper_asks (s : Session) (event : Event) : ∀ op ∈ s.asks event, op.Proper := by
  cases event with
  | call r message around metadata =>
    intro op hop
    unfold asks at hop
    dsimp only at hop
    split at hop
    · next hpasses => exact proper_of_valid (valid_of_passes hpasses) op hop
    · exact absurd hop List.not_mem_nil
  | _ => exact fun op hop => absurd hop List.not_mem_nil

/-- What a session asks of its store is asked for in valid requests. -/
theorem proper_asked (s : Session) (events : List Event) : ∀ op ∈ s.asked e events, op.Proper := by
  induction events generalizing s with
  | nil => exact fun op hop => absurd hop List.not_mem_nil
  | cons event rest ih =>
    exact List.forall_mem_append.mpr ⟨s.proper_asks event, ih (s.step e event)⟩

/-- **The services keep their store well-formed**, over any run of calls. -/
theorem wellFormed_reached (now : Int64) (gate : Gate) (e : Evaluator) (events : List Event) :
    ((start now gate).after e events).backend.store.WellFormed := by
  rw [store_after]
  exact (wellFormed_initial now).after ((start now gate).proper_asked events)

/-- The services store no relationship twice. -/
theorem nodup_reached (now : Int64) (gate : Gate) (e : Evaluator) (events : List Event)
    (tenant : String) : (((start now gate).after e events).backend.store.tuples tenant).Nodup := by
  rw [store_after]
  exact nodup_after now _ tenant

end Session

/-! ### Stored relationships -/

section Pinpoint

variable {b : Backend} {tenant : String} {t : Tuple}

/-- A relationship of the store can be read: a call that is let in answers a page with it. A list in
    memory has positions of 64 bits, which is assumed of the relationships that are found. -/
theorem read_pinpoint (h : b.store.WellFormed) (ht : t ∈ b.store.tuples tenant)
    (fits : ((b.store.tuples tenant).filter (selects (pinpoint t))).length ≤ 2 ^ 64)
    {size : UInt32} (small : size.toNat ≤ 100) :
    ∃ token, ∀ e around metadata, b.admits around metadata = true →
      ∃ page, (b.call e around metadata .readRelationships
          ⟨tenant, some {}, some (pinpoint t), size, token⟩).1 = .answer page
        ∧ t ∈ page.tuples := by
  have hfound : t ∈ (b.store.tuples tenant).filter (selects (pinpoint t)) :=
    List.mem_filter.mpr ⟨ht, selects_pinpoint (h.tuples tenant t ht)⟩
  -- The page starts where the relationship stands.
  obtain ⟨i, hi, hget⟩ := List.mem_iff_getElem.mp hfound
  refine ⟨toString i, fun e around metadata admitted => ?_⟩
  have hvalid : violation? (⟨tenant, some {}, some (pinpoint t), size, toString i⟩
      : RelationshipReadRequest) = none :=
    valid_read_iff.mpr ⟨h.named ht, rfl,
      ⟨_, rfl, allHold_pinpoint (h.tuples tenant t ht) "filter"⟩, small⟩
  have hanswer := (answer_call_iff b e around metadata .readRelationships _).mpr
    ⟨Backend.passes_iff.mpr ⟨hvalid, admitted⟩, handle_read (offset?_toString (by omega))⟩
  refine ⟨_, hanswer, ?_⟩
  refine List.mem_take_iff_getElem.mpr ⟨0, ?_, ?_⟩
  · have hpositive := (Page.mk size (toString i)).limit_pos
    have hdrop : 0 < (((b.store.tuples tenant).filter (selects (pinpoint t))).drop i).length := by
      rw [List.length_drop]
      omega
    exact Nat.lt_min.mpr ⟨hpositive, hdrop⟩
  · rw [List.getElem_drop]
    exact hget

/-- A relationship of the store can be removed: a call that is let in is answered, and the
    relationship is gone. -/
theorem delete_pinpoint (h : b.store.WellFormed) (ht : t ∈ b.store.tuples tenant) (e : Evaluator)
    {around : Surroundings} {metadata : Metadata} (admitted : b.admits around metadata = true) :
    let removal := b.call e around metadata .deleteData ⟨tenant, some (pinpoint t)⟩
    (∃ answer, removal.1 = .answer answer) ∧ t ∉ removal.2.store.tuples tenant := by
  intro removal
  have hselects := selects_pinpoint (h.tuples tenant t ht)
  have hvalid : violation? (⟨tenant, some (pinpoint t)⟩ : DataDeleteRequest) = none :=
    valid_delete_iff.mpr ⟨h.named ht, _, rfl, allHold_pinpoint (h.tuples tenant t ht) "tuple_filter"⟩
  have hpasses : b.passes around metadata .deleteData ⟨tenant, some (pinpoint t)⟩ = true :=
    Backend.passes_iff.mpr ⟨hvalid, admitted⟩
  refine ⟨⟨_, (answer_call_iff b e around metadata .deleteData _).mpr ⟨hpasses, rfl⟩⟩, ?_⟩
  have hstore : removal.2.store = (b.store.delete tenant (pinpoint t)).2 := by
    rw [store_call, if_pos hpasses]
    rfl
  rw [hstore, tuples_delete, if_pos rfl]
  simp [hselects]

end Pinpoint

/-! ### What is stored -/

/-- **What the services store is well-formed.** After any run of calls:

    * every stored relationship keeps the rules of relationships. A filter selects it that is valid to
      read and to delete by: any call with it that is let in answers a page with the relationship,
      or removes it. A list in memory has positions of 64 bits, which is assumed of the relationships
      that the filter selects;
    * whoever has an entry for relationships or schemas has a valid id, and whoever has one for schemas
      has one that can be read, and only ones that are not blank;
    * every registered tenant is found under its own id, which is valid, and has a name that is neither
      empty nor long;
    * there are never more tenants than allowed. -/
theorem stored_wellFormed (now : Int64) (gate : Gate) (e : Evaluator) (events : List Session.Event) :
    let b := ((Session.start now gate).after e events).backend
    let s := b.store
    (∀ tenant, ∀ t ∈ s.tuples tenant,
        (∀ field, AllHold (tupleRules field t))
        ∧ ∃ filter, selects filter t = true
          ∧ (∀ token size, size.toNat ≤ 100 →
              violation? (⟨tenant, some {}, some filter, size, token⟩ : RelationshipReadRequest)
                = none)
          ∧ violation? (⟨tenant, some filter⟩ : DataDeleteRequest) = none
          ∧ (((s.tuples tenant).filter (selects filter)).length ≤ 2 ^ 64 →
              ∀ size, size.toNat ≤ 100 → ∃ token, ∀ around metadata,
                b.admits around metadata = true →
                ∃ page, (b.call e around metadata .readRelationships
                    ⟨tenant, some {}, some filter, size, token⟩).1 = .answer page
                  ∧ t ∈ page.tuples)
          ∧ ∀ around metadata, b.admits around metadata = true →
              let removal := b.call e around metadata .deleteData ⟨tenant, some filter⟩
              (∃ answer, removal.1 = .answer answer) ∧ t ∉ removal.2.store.tuples tenant)
    ∧ (∀ tenant, (s.tuplesOf.get? tenant).isSome = true →
        NameKind.tenantId.accepts tenant = true)
    ∧ (∀ tenant versions, s.schemasOf.get? tenant = some versions →
        NameKind.tenantId.accepts tenant = true ∧ versions ≠ []
          ∧ ∀ v ∈ versions, Text.isBlankText v.schema = false)
    ∧ (∀ t ∈ s.registry.tenants, s.registry.find? t.id = some t
        ∧ NameKind.tenantId.accepts t.id = true ∧ 1 ≤ t.name.length ∧ t.name.length ≤ 64)
    ∧ s.registry.size ≤ 10000 := by
  intro b s
  have h : s.WellFormed := Session.wellFormed_reached now gate e events
  refine ⟨?_, h.keys, h.schemas, ?_, h.size⟩
  · intro tenant t ht
    have hkept := h.tuples tenant t ht
    refine ⟨fun field => allHold_tupleRules.mpr hkept, pinpoint t, selects_pinpoint hkept, ?_, ?_, ?_,
      fun around metadata admitted => delete_pinpoint h ht e admitted⟩
    · intro token size small
      exact valid_read_iff.mpr ⟨h.named ht, rfl, ⟨_, rfl, allHold_pinpoint hkept "filter"⟩, small⟩
    · exact valid_delete_iff.mpr ⟨h.named ht, _, rfl, allHold_pinpoint hkept "tuple_filter"⟩
    · intro fits size small
      obtain ⟨token, hread⟩ := read_pinpoint h ht fits small
      exact ⟨token, fun around metadata admitted => hread e around metadata admitted⟩
  · intro t ht
    have hfound := find?_of_mem ht
    exact ⟨hfound, h.tenants t.id t hfound⟩

/-- The document that was shared can be found, and the sharing taken back. -/
theorem stored_wellFormed_office :
    let b := (office.after .direct opening).backend
    let around : Surroundings := ⟨⟨0, .unreachable⟩, ⟨0, ""⟩⟩
    viewing "1" ∈ b.store.tuples "t1"
    ∧ ∃ filter token page,
        (b.call .direct around [] .readRelationships
            ⟨"t1", some {}, some filter, 10, token⟩).1 = .answer page
          ∧ viewing "1" ∈ page.tuples
          ∧ viewing "1" ∉ (b.call .direct around [] .deleteData ⟨"t1", some filter⟩).2.store.tuples
              "t1" := by
  intro b around
  have hstored : b.store.tuples "t1" = [viewing "1"] := rfl
  have hmem : viewing "1" ∈ b.store.tuples "t1" := by rw [hstored]; exact List.mem_singleton_self _
  obtain ⟨-, filter, -, -, -, hread, hdelete⟩ :=
    (stored_wellFormed 0 ⟨.ofRate 10, none⟩ .direct opening).1 "t1" (viewing "1") hmem
  have fits : ((b.store.tuples "t1").filter (selects filter)).length ≤ 2 ^ 64 :=
    Nat.le_trans (List.length_filter_le _ _) (by rw [hstored]; decide)
  obtain ⟨token, hpage⟩ := hread fits 10 (by decide)
  obtain ⟨page, hanswer, hfound⟩ := hpage around [] rfl
  exact ⟨hmem, filter, token, page, hanswer, hfound, (hdelete around [] rfl).2⟩

end Rebac.Service
