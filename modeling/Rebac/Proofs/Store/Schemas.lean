import Mathlib.Data.List.Nodup
import Rebac.Proofs.Store.Run

namespace Rebac.Store

/-!
# The history of schemas

Which schemas can be read after a run, told from the operations of the run alone.

* `Since` — something happened, and nothing of another kind has happened since; `since_concat` is its
  step law.
* `schemas_perform` — the schemas of a tenant after an operation.
* `mem_schemas_after` — **what a tenant has is what was written to it since it was last removed**;
  `getLast?_schemas_after` says which of them is the latest.
* `versions_schemas_after` — no version stands twice if none was given out twice.
* `schema_history` — **what can be read after a run**, by version and without one.
-/

/-! ### Histories -/

/-- Something that `begins` has happened, and nothing that `ends` since. -/
def Since {α : Type} (begins ends : α → Prop) (past : List α) : Prop :=
  ∃ before a later, past = before ++ a :: later ∧ begins a ∧ ∀ b ∈ later, ¬ ends b

/-- Nothing stands at the beginning. -/
theorem not_since_nil {α : Type} {begins ends : α → Prop} : ¬ Since begins ends [] := by
  rintro ⟨before, a, later, hpast, -⟩
  simp at hpast

/-- The last thing that happened begins it anew, or does not end it. -/
theorem since_concat {α : Type} {begins ends : α → Prop} {past : List α} {a : α} :
    Since begins ends (past ++ [a]) ↔ begins a ∨ Since begins ends past ∧ ¬ ends a := by
  constructor
  · rintro ⟨before, b, later, hpast, hbegins, hkept⟩
    rcases List.eq_nil_or_concat later with rfl | ⟨later, c, rfl⟩
    · -- It was the last thing that began it.
      obtain ⟨-, hlast⟩ := List.append_inj' hpast rfl
      cases hlast
      exact .inl hbegins
    · have hsplit : past ++ [a] = (before ++ b :: later) ++ [c] := by simp [hpast]
      obtain ⟨rfl, hlast⟩ := List.append_inj' hsplit rfl
      cases hlast
      have hother : ∀ x ∈ later, ¬ ends x := fun x hx => hkept x (by simp [hx])
      exact .inr ⟨⟨before, b, later, rfl, hbegins, hother⟩, hkept a (by simp)⟩
  · rintro (hbegins | ⟨⟨before, b, later, rfl, hbegins, hkept⟩, hends⟩)
    · exact ⟨past, a, [], rfl, hbegins, by simp⟩
    · refine ⟨before, b, later ++ [a], by simp, hbegins, ?_⟩
      intro x hx
      rcases List.mem_append.mp hx with hx | hx
      · exact hkept x hx
      · rw [List.mem_singleton.mp hx]
        exact hends

/-- Something that begins it stands at some place, and nothing that ends it stands behind. -/
theorem since_of_getElem? {α : Type} {begins ends : α → Prop} {past : List α} {i : Nat} {a : α}
    (ha : past[i]? = some a) (hbegins : begins a)
    (hkept : ∀ k b, i < k → past[k]? = some b → ¬ ends b) : Since begins ends past := by
  obtain ⟨hi, hget⟩ := List.getElem?_eq_some_iff.mp ha
  refine ⟨past.take i, a, past.drop (i + 1), ?_, hbegins, ?_⟩
  · rw [← hget, List.getElem_cons_drop, List.take_append_drop]
  · intro b hb
    obtain ⟨m, hm⟩ := List.mem_iff_getElem?.mp hb
    rw [List.getElem?_drop] at hm
    exact hkept _ b (by omega) hm

/-! ### What an operation does to the schemas -/

/-- The version that an operation gives out. -/
def Operation.version? : Operation → Option String
  | writeSchema _ _ version => some version
  | _ => none

/-- Whether an operation removes a tenant with success. -/
def Operation.retires (s : Store) (tenant : String) : Operation → Bool
  | deleteTenant id => id = tenant && (s.deleteTenant id).isOk
  | _ => false

/-- The schema that an operation writes to a tenant, if any. -/
def Operation.draft? (tenant : String) : Operation → Option SchemaVersion
  | writeSchema tenant' schema version => if tenant' = tenant then some ⟨version, schema⟩ else none
  | _ => none

variable {s : Store} {op : Operation} {tenant : String} {v : SchemaVersion}

/-- The version of a write of a schema is that of what it writes. -/
theorem version?_of_draft? (h : op.draft? tenant = some v) : op.version? = some v.version := by
  cases op with
  | writeSchema tenant' schema version =>
    simp only [Operation.draft?] at h
    split at h
    · cases h
      rfl
    · cases h
  | _ => cases h

/-- A removal succeeds if the tenant is registered. -/
theorem isOk_deleteTenant (s : Store) (id : String) :
    (s.deleteTenant id).isOk = (s.registry.find? id).isSome := by
  unfold deleteTenant unregister
  cases s.registry.find? id <;> rfl

/-- **An operation appends what it writes to a tenant**, unless it removes the tenant with all it
    has. -/
theorem schemas_perform (s : Store) (op : Operation) (tenant : String) :
    (s.perform op).2.schemas tenant
      = (if op.retires s tenant then [] else s.schemas tenant) ++ (op.draft? tenant).toList := by
  unfold schemas
  rw [schemasOf_perform]
  cases op with
  | writeSchema tenant' schema version =>
    show Option.getD (if tenant' = tenant then _ else _) []
      = (s.schemasOf.get? tenant).getD [] ++ Option.toList (if tenant' = tenant then _ else none)
    by_cases h : tenant' = tenant
    · rw [if_pos h, if_pos h]
      rfl
    · rw [if_neg h, if_neg h]
      exact (List.append_nil _).symm
  | deleteTenant id =>
    -- A removal retires the tenant exactly if it succeeds, hence if the tenant is registered.
    have hretires : Operation.retires s tenant (.deleteTenant id) = true
        ↔ id = tenant ∧ (s.registry.find? id).isSome = true := by
      show (decide (id = tenant) && (s.deleteTenant id).isOk) = true ↔ _
      rw [isOk_deleteTenant, Bool.and_eq_true, decide_eq_true_eq]
    by_cases h : id = tenant ∧ (s.registry.find? id).isSome = true
    · rw [if_pos (hretires.mpr h)]
      dsimp only
      rw [if_pos h]
      rfl
    · rw [if_neg (fun hr => h (hretires.mp hr))]
      dsimp only
      rw [if_neg h]
      exact (List.append_nil _).symm
  | _ => exact (List.append_nil _).symm

/-! ### What a tenant has after a run -/

/-- A schema stands for a tenant: it was written to the tenant, which has not been removed since. -/
def Stands (tenant : String) (v : SchemaVersion) (past : List (Store × Operation)) : Prop :=
  Since (fun h => h.2.draft? tenant = some v) (fun h => h.2.retires h.1 tenant = true) past

/-- A schema is the latest of a tenant: it was written to the tenant, which has not been removed
    since, and nothing else has been written to it. -/
def Latest (tenant : String) (v : SchemaVersion) (past : List (Store × Operation)) : Prop :=
  Since (fun h => h.2.draft? tenant = some v)
    (fun h => h.2.retires h.1 tenant = true ∨ h.2.draft? tenant ≠ none) past

/-- **What a tenant has is what stands for it.** -/
theorem mem_schemas_after (now : Int64) (ops : List Operation) (tenant : String) (v : SchemaVersion) :
    v ∈ ((initial now).after ops).schemas tenant ↔ Stands tenant v ((initial now).history ops) := by
  -- On the run from its end, by the step laws of both sides.
  induction ops using List.reverseRecOn with
  | nil => exact ⟨fun h => absurd h List.not_mem_nil, fun h => absurd h not_since_nil⟩
  | append_singleton ops op ih =>
    rw [after_append, after_singleton, history_append, schemas_perform, List.mem_append,
      Option.mem_toList, or_comm]
    show _ ↔ Since _ _ (_ ++ [((initial now).after ops, op)])
    rw [since_concat, ← Stands, ← ih]
    apply or_congr_right
    by_cases hgone : op.retires ((initial now).after ops) tenant = true
    · simp [hgone]
    · simp [hgone]

/-- **The last one is the latest.** -/
theorem getLast?_schemas_after (now : Int64) (ops : List Operation) (tenant : String)
    (v : SchemaVersion) :
    (((initial now).after ops).schemas tenant).getLast? = some v
      ↔ Latest tenant v ((initial now).history ops) := by
  induction ops using List.reverseRecOn with
  | nil => exact ⟨nofun, fun h => absurd h not_since_nil⟩
  | append_singleton ops op ih =>
    rw [after_append, after_singleton, history_append, schemas_perform]
    show _ ↔ Since _ _ (_ ++ [((initial now).after ops, op)])
    rw [since_concat, ← Latest, ← ih]
    dsimp only
    cases hdraft : op.draft? tenant with
    | some w =>
      -- What is written now is the last one.
      simp
    | none =>
      rw [Option.toList_none, List.append_nil]
      by_cases hgone : op.retires ((initial now).after ops) tenant = true
      · simp [hgone]
      · simp [hgone]

/-- The versions of a tenant were given out in this order, each once. -/
theorem versions_schemas_after (now : Int64) (ops : List Operation) (tenant : String) :
    ((((initial now).after ops).schemas tenant).map (·.version)).Sublist
      (ops.filterMap Operation.version?) := by
  induction ops using List.reverseRecOn with
  | nil => exact List.Sublist.slnil
  | append_singleton ops op ih =>
    rw [after_append, after_singleton, schemas_perform, List.map_append, List.filterMap_append]
    apply List.Sublist.append
    · split
      · exact List.nil_sublist _
      · exact ih
    · cases hdraft : op.draft? tenant with
      | none => exact List.nil_sublist _
      | some w => simp [version?_of_draft? hdraft]

/-! ### Reading -/

/-- Among schemas with different versions, the one of a version is found. -/
theorem find?_version_iff {vs : List SchemaVersion} (distinct : (vs.map (·.version)).Nodup)
    {version : String} :
    vs.find? (fun v => v.version = version) = some v ↔ v.version = version ∧ v ∈ vs := by
  constructor
  · intro hfound
    exact ⟨by simpa using List.find?_some hfound, List.mem_of_find?_eq_some hfound⟩
  · rintro ⟨rfl, hv⟩
    cases hfound : vs.find? (fun w => w.version = v.version) with
    | none => exact absurd hv (by simpa using List.find?_eq_none.mp hfound v)
    | some w =>
      -- What is found has the same version, so it is the same schema.
      have hw : w ∈ vs := List.mem_of_find?_eq_some hfound
      have hsame : w.version = v.version := by simpa using List.find?_some hfound
      rw [List.inj_on_of_nodup_map distinct hw hv hsame]

/-- A schema is read by its version among those of the tenant, and without one it is the last. -/
theorem readSchema_ok_iff {version : String} :
    s.readSchema tenant version = .ok v
      ↔ (if version.isEmpty then (s.schemas tenant).getLast?
          else (s.schemas tenant).find? fun w => w.version = version) = some v := by
  unfold readSchema schemas
  cases s.schemasOf.get? tenant with
  | none => cases version.isEmpty <;> simp
  | some vs =>
    dsimp only [Option.getD_some]
    split <;> simp_all

/-- The newest version is that of the schema that was written last. -/
theorem headVersion_ok_iff {version : String} :
    s.headVersion tenant = .ok version
      ↔ ∃ v, (s.schemas tenant).getLast? = some v ∧ v.version = version := by
  unfold headVersion
  cases (s.schemas tenant).getLast? <;> simp

/-- Nothing but a missing schema or version keeps a schema from being read. -/
theorem code_of_readSchema {version : String} {failure : ServiceError}
    (h : s.readSchema tenant version = .error failure) : failure.code = .notFound := by
  unfold readSchema at h
  split at h
  · cases h
    rfl
  · dsimp only at h
    split at h
    · cases h
    · cases h
      rfl

/-- A tenant without a schema is told that none is found. -/
theorem code_of_headVersion {failure : ServiceError} (h : s.headVersion tenant = .error failure) :
    failure.code = .notFound := by
  unfold headVersion at h
  split at h
  · cases h
  · cases h
    rfl

/-- **The history of schemas is faithful.** After a run in which no version was given out twice:

    * a version of a tenant is read as the schema that was written under it, if it was written to this
      tenant and the tenant has not been removed since;
    * without a version the latest of these is read, and its version is the latest version;
    * whatever else is asked for is not found. -/
theorem schema_history (now : Int64) (ops : List Operation)
    (distinct : (ops.filterMap Operation.version?).Nodup) (tenant : String) :
    let s := (initial now).after ops
    let past := (initial now).history ops
    (∀ version, version ≠ "" → ∀ v,
        s.readSchema tenant version = .ok v ↔ v.version = version ∧ Stands tenant v past)
    ∧ (∀ v, s.readSchema tenant "" = .ok v ↔ Latest tenant v past)
    ∧ (∀ version, s.headVersion tenant = .ok version ↔ ∃ v, Latest tenant v past ∧ v.version = version)
    ∧ (∀ version failure, s.readSchema tenant version = .error failure → failure.code = .notFound)
    ∧ ∀ failure, s.headVersion tenant = .error failure → failure.code = .notFound := by
  intro s past
  have hversions : ((s.schemas tenant).map (·.version)).Nodup :=
    distinct.sublist (versions_schemas_after now ops tenant)
  refine ⟨?_, ?_, ?_, fun _ _ => code_of_readSchema, fun _ => code_of_headVersion⟩
  · intro version hversion v
    have hgiven : version.isEmpty = false := by simpa using hversion
    rw [readSchema_ok_iff, hgiven, if_neg Bool.false_ne_true, find?_version_iff hversions,
      mem_schemas_after]
  · intro v
    rw [readSchema_ok_iff]
    exact getLast?_schemas_after now ops tenant v
  · intro version
    rw [headVersion_ok_iff]
    apply exists_congr
    intro v
    rw [getLast?_schemas_after]

/-- Two tenants write schemas, and the second one is removed. -/
def drafting : List Operation :=
  [.createTenant 0 "t2" "two", .writeSchema "t1" "first" "v1", .writeSchema "t2" "other" "v2",
    .writeSchema "t1" "second" "v3", .deleteTenant "t2"]

/-- The first tenant still reads its first schema, its latest is the second, and nothing is left of the
    schema of the other. -/
theorem schema_history_drafting :
    (drafting.filterMap Operation.version?).Nodup
      ∧ ((initial 0).after drafting).readSchema "t1" "v1" = .ok ⟨"v1", "first"⟩
      ∧ ((initial 0).after drafting).headVersion "t1" = .ok "v3"
      ∧ ((initial 0).after drafting).readSchema "t1" "v2" = .error (.noVersion "v2")
      ∧ ((initial 0).after drafting).readSchema "t2" "v2" = .error (.noSchema "t2") := by
  have distinct : (drafting.filterMap Operation.version?).Nodup := by decide
  obtain ⟨hread, -, hhead, -, -⟩ := schema_history 0 drafting distinct "t1"
  refine ⟨distinct, ?_, ?_, rfl, rfl⟩
  · exact (hread "v1" (by decide) ⟨"v1", "first"⟩).mpr
      ⟨rfl, [_], _, [_, _, _], rfl, rfl, by decide⟩
  · exact (hhead "v3").mpr ⟨⟨"v3", "second"⟩, ⟨[_, _, _], _, [_], rfl, rfl, by decide⟩, rfl⟩

end Rebac.Store
