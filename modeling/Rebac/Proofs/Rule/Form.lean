import Rebac.Proofs.Rule.Report
import Rebac.Proofs.Rule.Valid

namespace Rebac.Rule

open Rebac.Message

/-!
# Relationships and filters: their faults and their rules

For each part of a request a form that says what may be wrong with it, and what the part is if nothing
is wrong.

* `entityForm`, `subjectForm`, `tupleForm`, `filterForm` — the forms.
* `reports_entity`, `reports_subject`, `reports_tuple`, `reports_filter` — **the rules of a part report
  the first fault of its form**.
* `ValidEntity`, `ValidSubject`, `ValidFilter` — parts that keep their rules; `clean_filter_iff` and the
  other lemmas of that name say that these are the parts without faults.
* `FirstAmiss`, `first_amiss_iff` — if the first fault is within a list, it is within the first bad
  item; `first_entityIds_iff` and `first_subjectIds_iff` say this of the names in a filter.
-/

variable {path : String} {below : Place} {reason : Reason} {i : Nat}

/-! ### Relationships -/

/-- An entity has a kind and a name. -/
def entityForm (e : Entity) : Form Entity where
  fields := [("type", unnamed .identifier e.type), ("id", unnamed .entityId e.id)]
  declared := rfl

/-- A subject has a kind, a name, and perhaps a relation. -/
def subjectForm (u : Subject) : Form Subject where
  fields := [
    ("type", unnamed .identifier u.type),
    ("id", unnamed .entityId u.id),
    ("relation", unnamedIfGiven .identifier u.relation)]
  declared := rfl

/-- A relationship has an entity, a relation and a subject. -/
def tupleForm (t : Tuple) : Form Tuple where
  fields := [
    ("entity", ofRequired t.entity fun e => (entityForm e).faults),
    ("relation", unnamed .identifier t.relation),
    ("subject", ofRequired t.subject fun u => (subjectForm u).faults)]
  declared := rfl

/-- An entity that keeps its rules. -/
structure ValidEntity (e : Entity) : Prop where
  type : NameKind.identifier.accepts e.type = true
  id : NameKind.entityId.accepts e.id = true

/-- A subject that keeps its rules; its relation may be empty. -/
structure ValidSubject (u : Subject) : Prop where
  type : NameKind.identifier.accepts u.type = true
  id : NameKind.entityId.accepts u.id = true
  relation : u.relation = "" ∨ NameKind.identifier.accepts u.relation = true

/-- The rules for an entity report the faults of its form. -/
theorem reports_entity (path : String) (e : Entity) :
    Reports (Place.under path) (entityRules path e) (entityForm e).faults :=
  .fieldRule rfl (.fieldRule rfl .noFields)

/-- The rules for a subject report the faults of its form. -/
theorem reports_subject (path : String) (u : Subject) :
    Reports (Place.under path) (subjectRules path u) (subjectForm u).faults :=
  .fieldRule rfl (.fieldRule rfl (.lastField (.namedIfGiven rfl)))

/-- The rules for a relationship report the faults of its form. -/
theorem reports_tuple (path : String) (t : Tuple) :
    Reports (Place.under path) (tupleRules path t) (tupleForm t).faults :=
  .field (.required rfl (reports_entity _))
    (.fieldRule rfl (.lastField (.required rfl (reports_subject _))))

@[simp] theorem clean_entity_iff {e : Entity} :
    (entityForm e).faults.Clean ↔ ValidEntity e := by
  simp only [entityForm, clean_form_iff, List.forall_mem_cons, clean_unnamed_iff]
  constructor
  · rintro ⟨htype, hid, -⟩
    exact ⟨htype, hid⟩
  · rintro ⟨htype, hid⟩
    exact ⟨htype, hid, List.forall_mem_nil _⟩

@[simp] theorem clean_subject_iff {u : Subject} :
    (subjectForm u).faults.Clean ↔ ValidSubject u := by
  simp only [subjectForm, clean_form_iff, List.forall_mem_cons, clean_unnamed_iff,
    clean_unnamedIfGiven_iff]
  constructor
  · rintro ⟨htype, hid, hrelation, -⟩
    exact ⟨htype, hid, hrelation⟩
  · rintro ⟨htype, hid, hrelation⟩
    exact ⟨htype, hid, hrelation, List.forall_mem_nil _⟩

/-- **A relationship without faults is well-formed.** -/
@[simp] theorem clean_tuple_iff {t : Tuple} : (tupleForm t).faults.Clean ↔ WellFormed t := by
  rw [← (reports_tuple "" t).none_iff, firstBroken_eq_none_iff]
  exact allHold_tupleRules

/-! ### Filters -/

/-- A filter for entities has a kind, and names to choose from. -/
def entityFilterForm (e : EntityFilter) : Form EntityFilter where
  fields := [("type", unnamed .identifier e.type), ("ids", ofItems (unnamed .entityId) e.ids)]
  declared := rfl

/-- A filter for subjects has names to choose from, and perhaps a kind and a relation. -/
def subjectFilterForm (u : SubjectFilter) : Form SubjectFilter where
  fields := [
    ("type", unnamedIfGiven .identifier u.type),
    ("ids", ofItems (unnamed .entityId) u.ids),
    ("relation", unnamedIfGiven .identifier u.relation)]
  declared := rfl

/-- A filter selects entities, and perhaps a relation and subjects. -/
def filterForm (f : TupleFilter) : Form TupleFilter where
  fields := [
    ("entity", ofRequired f.entity fun e => (entityFilterForm e).faults),
    ("relation", unnamedIfGiven .identifier f.relation),
    ("subject", ofOptional f.subject fun u => (subjectFilterForm u).faults)]
  declared := rfl

/-- The rules of a list of names, under any path that is the same as their own. -/
theorem reports_ids {field : String} (h : field = path) (ids : List String) :
    Reports (Place.under path) (idsRules field ids) (ofItems (unnamed .entityId) ids) := by
  rw [h]
  exact .items (fun _ _ => .rule rfl) ids

/-- The rules for a filter report the faults of its form. -/
theorem reports_filter (path : String) (f : TupleFilter) :
    Reports (Place.under path) (filterRules path f) (filterForm f).faults := by
  -- The rules of a filter name paths two steps below it.
  have hbelow := fun {outer inner whole : String} => @Place.under_below path outer inner whole
  rw [filterRules, List.append_assoc]
  refine .field (.required rfl fun e => ?_) (.field (.namedIfGiven rfl) (.lastField
    (.optional fun u => ?_)))
  · exact .fieldRule (hbelow rfl) (.lastField (reports_ids (hbelow rfl) _))
  · rw [List.append_assoc]
    exact .field (.namedIfGiven (hbelow rfl)) (.field (reports_ids (hbelow rfl) _)
      (.lastField (.namedIfGiven (hbelow rfl))))

/-- A filter that keeps its rules: the kind of entity must be given, all else may be empty. -/
structure ValidFilter (f : TupleFilter) : Prop where
  entity : ∃ e, f.entity = some e ∧ NameKind.identifier.accepts e.type = true
    ∧ ∀ id ∈ e.ids, NameKind.entityId.accepts id = true
  relation : f.relation = "" ∨ NameKind.identifier.accepts f.relation = true
  subject : ∀ u, f.subject = some u →
    (u.type = "" ∨ NameKind.identifier.accepts u.type = true)
      ∧ (∀ id ∈ u.ids, NameKind.entityId.accepts id = true)
      ∧ (u.relation = "" ∨ NameKind.identifier.accepts u.relation = true)

/-- **A filter without faults is valid.** -/
@[simp] theorem clean_filter_iff {f : TupleFilter} :
    (filterForm f).faults.Clean ↔ ValidFilter f := by
  simp only [filterForm, entityFilterForm, subjectFilterForm, clean_form_iff, List.forall_mem_cons,
    clean_ofRequired_iff, clean_ofOptional_iff, clean_ofItems_iff, clean_unnamed_iff,
    clean_unnamedIfGiven_iff, List.not_mem_nil, false_imp_iff, implies_true, and_true]
  constructor
  · rintro ⟨hentity, hrelation, hsubject⟩
    exact ⟨hentity, hrelation, hsubject⟩
  · rintro ⟨hentity, hrelation, hsubject⟩
    exact ⟨hentity, hrelation, hsubject⟩

/-! ### The first bad item of a list -/

/-- The item of that number is bad, and those before it are good. -/
structure FirstAmiss {α : Type} (good : α → Prop) (items : List α) (i : Nat) (a : α) : Prop where
  there : items[i]? = some a
  amiss : ¬good a
  before : ∀ b ∈ items.take i, good b

/-- **If the first fault is within a list, it is within the first bad item.** -/
theorem first_amiss_iff {α : Type} {faults : α → Faults} {good : α → Prop} {items : List α}
    (clean : ∀ a, (faults a).Clean ↔ good a) :
    First (ofItems faults items) (.item i :: below) reason
      ↔ ∃ a, FirstAmiss good items i a ∧ First (faults a) below reason := by
  rw [first_ofItems_iff]
  constructor
  · rintro ⟨a, hitem, hfirst, hbefore⟩
    have hamiss : ¬good a := fun hgood => (clean a).mpr hgood _ _ hfirst.fault
    exact ⟨a, ⟨hitem, hamiss, fun b hb => (clean b).mp (hbefore b hb)⟩, hfirst⟩
  · rintro ⟨a, hamiss, hfirst⟩
    exact ⟨a, hamiss.there, hfirst, fun b hb => (clean b).mpr (hamiss.before b hb)⟩

/-- In a list of names, the first bad one is at fault. -/
theorem first_amissName_iff {kind : NameKind} {names : List String} :
    First (ofItems (unnamed kind) names) (.item i :: below) reason
      ↔ below = [] ∧ ∃ name, FirstAmiss (fun name => kind.accepts name = true) names i name
        ∧ reason = .notNamed name kind := by
  rw [first_amiss_iff fun _ => clean_unnamed_iff]
  constructor
  · rintro ⟨name, hamiss, hfirst⟩
    exact ⟨hfirst.fault.2.1, name, hamiss, hfirst.fault.2.2⟩
  · rintro ⟨hbelow, name, hamiss, hreason⟩
    exact ⟨name, hamiss, first_broken_iff.mpr
      ⟨Bool.eq_false_iff.mpr hamiss.amiss, hbelow, hreason⟩⟩

/-- **The names of entities in a filter.** The first fault is in one of them just if it is the first bad
    one, and the kind of entity is right. -/
theorem first_entityIds_iff {f : TupleFilter} :
    First (filterForm f).faults (.field 0 "entity" :: .field 1 "ids" :: .item i :: below) reason
      ↔ ∃ e, f.entity = some e ∧ NameKind.identifier.accepts e.type = true ∧ below = []
        ∧ ∃ id, FirstAmiss (fun id => NameKind.entityId.accepts id = true) e.ids i id
          ∧ reason = .notNamed id .entityId := by
  have hids : ∀ e, First (entityFilterForm e).faults (.field 1 "ids" :: .item i :: below) reason
      ↔ NameKind.identifier.accepts e.type = true
        ∧ First (ofItems (unnamed .entityId) e.ids) (.item i :: below) reason := by
    intro e
    rw [first_form_iff]
    simp [entityFilterForm]
  rw [first_form_iff]
  simp [filterForm, first_ofRequired_iff, hids, first_amissName_iff]

/-- **The names of subjects in a filter.** The first fault is in one of them just if it is the first bad
    one, the kind of subject is right, and the filter is valid without its subject. -/
theorem first_subjectIds_iff {f : TupleFilter} :
    First (filterForm f).faults (.field 2 "subject" :: .field 1 "ids" :: .item i :: below) reason
      ↔ ValidFilter { f with subject := none }
        ∧ ∃ u, f.subject = some u ∧ (u.type = "" ∨ NameKind.identifier.accepts u.type = true)
          ∧ below = [] ∧ ∃ id, FirstAmiss (fun id => NameKind.entityId.accepts id = true) u.ids i id
            ∧ reason = .notNamed id .entityId := by
  have hids : ∀ u, First (subjectFilterForm u).faults (.field 1 "ids" :: .item i :: below) reason
      ↔ (u.type = "" ∨ NameKind.identifier.accepts u.type = true)
        ∧ First (ofItems (unnamed .entityId) u.ids) (.item i :: below) reason := by
    intro u
    rw [first_form_iff]
    simp [subjectFilterForm]
  rw [first_form_iff, ← clean_filter_iff, clean_form_iff]
  simp [filterForm, first_ofOptional_iff, hids, first_amissName_iff]

end Rebac.Rule
