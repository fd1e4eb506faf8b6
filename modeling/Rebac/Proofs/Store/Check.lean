import Rebac.Proofs.Rule.Valid
import Rebac.Proofs.Store.Paging
import Rebac.Proofs.Store.Run

namespace Rebac.Store

open Rebac.Message

/-!
# Checks

A check turns its question into a filter, and an empty field of a filter matches anything.

* `asked`, `StoresUserset` — the relationship that a check is about, and those that differ from it by
  naming a set of subjects in place of the subject.
* `selects_lookupFilter`, `selects_checkFilter` — what the filters of the evaluator select.
* `check_eq` — a check is answered by whether anything stored is selected.
* `check_exact_iff` — **when a check is exact**: it is, unless the relationship is not stored and a
  set of subjects stands in its place.
-/

variable {e : Entity} {permission : String} {u : Subject} {t : Tuple}

/-- The relationship that a check is about. -/
def asked (e : Entity) (permission : String) (u : Subject) : Tuple :=
  ⟨some e, permission, some u⟩

/-- Whether the subject is asked about itself while a set of subjects made from it has the
    permission. -/
def StoresUserset (s : Store) (tenant : String) (e : Entity) (permission : String) (u : Subject) :
    Prop :=
  u.relation = "" ∧
    ∃ relation, relation ≠ "" ∧ asked e permission { u with relation } ∈ s.tuples tenant

/-! ### What the filters select -/

/-- A pattern matches the same text, and the empty one any text. -/
theorem matchesText_iff {pattern value : String} :
    matchesText pattern value = true ↔ pattern = "" ∨ value = pattern := by
  rw [matchesText, Bool.or_eq_true, String.isEmpty_iff, decide_eq_true_iff, eq_comm (a := value)]

/-- A pattern that is not empty matches the same text only. -/
theorem matchesText_of_ne {pattern value : String} (h : pattern ≠ "") :
    matchesText pattern value = true ↔ value = pattern := by
  rw [matchesText_iff, or_iff_right h]

/-- The filter of a subject selects those of its id, and of its type and relation where these are
    not empty. -/
theorem selectsSubject_subjectFilter {u v : Subject} :
    selectsSubject (subjectFilter u) v = true
      ↔ matchesText u.type v.type = true ∧ v.id = u.id
        ∧ matchesText u.relation v.relation = true := by
  simp [selectsSubject, subjectFilter, matchesAny, and_assoc]

/-- A look-up reads the relationships of the subject with any entity of the kind. -/
theorem selects_lookupFilter {entityType : String} :
    selects (lookupFilter entityType permission u) t = true
      ↔ ∃ e v, t.entity = some e ∧ t.subject = some v ∧ matchesText entityType e.type = true
        ∧ matchesText permission t.relation = true
        ∧ selectsSubject (subjectFilter u) v = true := by
  unfold selects
  cases t.entity <;> cases t.subject <;>
    simp [lookupFilter, selectsEntity, matchesAny, and_assoc]

/-- A check reads what a look-up reads, of one entity. -/
theorem selects_checkFilter :
    selects (checkFilter e permission u) t = true
      ↔ selects (lookupFilter e.type permission u) t = true ∧ t.entity.map Entity.id = some e.id := by
  unfold selects
  cases t.entity <;> cases t.subject <;>
    simp [checkFilter, lookupFilter, selectsEntity, matchesAny, and_comm, and_left_comm, and_assoc]

/-- If the kinds and the permission are given, a check selects the relationship that it is about;
    without a relation of the subject, it selects every set of subjects as well. -/
theorem selects_checkFilter_iff (he : e.type ≠ "") (hp : permission ≠ "") (hu : u.type ≠ "") :
    selects (checkFilter e permission u) t = true
      ↔ ∃ relation, matchesText u.relation relation = true
        ∧ t = asked e permission { u with relation } := by
  rw [selects_checkFilter, selects_lookupFilter]
  constructor
  · rintro ⟨⟨e', v, hentity, hsubject, htype, hrelation, hselected⟩, hid⟩
    obtain ⟨hkind, huid, hurel⟩ := selectsSubject_subjectFilter.mp hselected
    rw [matchesText_of_ne he] at htype
    rw [matchesText_of_ne hp] at hrelation
    rw [matchesText_of_ne hu] at hkind
    rw [hentity, Option.map_some, Option.some_inj] at hid
    have hsame : e' = e := by
      show Entity.mk e'.type e'.id = ⟨e.type, e.id⟩
      rw [htype, hid]
    have hlike : v = { u with relation := v.relation } := by
      show Subject.mk v.type v.id v.relation = ⟨u.type, u.id, v.relation⟩
      rw [hkind, huid]
    refine ⟨v.relation, hurel, ?_⟩
    calc t = ⟨t.entity, t.relation, t.subject⟩ := rfl
      _ = asked e permission v := by rw [hentity, hrelation, hsubject, hsame, asked]
      _ = asked e permission { u with relation := v.relation } := by rw [← hlike]
  · rintro ⟨relation, hurel, rfl⟩
    have htext : ∀ text, matchesText text text = true := fun text => matchesText_iff.mpr (.inr rfl)
    refine ⟨⟨e, _, rfl, rfl, htext _, htext _, ?_⟩, rfl⟩
    exact selectsSubject_subjectFilter.mpr ⟨htext _, rfl, hurel⟩

/-! ### What a check answers -/

/-- The answer of a check. -/
def verdict (can : CheckResult) : Except ServiceError CheckResponse :=
  .ok ⟨can, some ⟨1⟩⟩

/-- No two results have the same verdict. -/
theorem verdict_inj {a b : CheckResult} : verdict a = verdict b ↔ a = b := by
  simp [verdict]

/-- A check is allowed exactly if a stored relationship is selected, and denied otherwise. -/
theorem check_eq (s : Store) {r : CheckRequest} (entity : r.entity = some e)
    (subject : r.subject = some u) :
    s.check r = verdict (if (s.tuples r.tenantId).any (selects (checkFilter e r.permission u))
      then .allowed else .denied) := by
  -- Of what was found the check sees one item, which is enough to tell whether there is any.
  have hpage : ∀ found : List Tuple, ((found.drop 0).take 1).isEmpty = found.isEmpty := by
    intro found
    cases found <;> rfl
  unfold check Store.read
  rw [entity, subject]
  show (Page.cut ⟨1, ""⟩ _ >>= fun page => _) = _
  rw [cut_eq ⟨1, ""⟩ offset?_empty]
  show verdict (if List.isEmpty (List.take 1 _) then _ else _) = _
  rw [hpage]
  by_cases hany : (s.tuples r.tenantId).any (selects (checkFilter e r.permission u)) = true
  · obtain ⟨t, ht, hselected⟩ := List.any_eq_true.mp hany
    have hfound := List.ne_nil_of_mem (List.mem_filter.mpr ⟨ht, hselected⟩)
    rw [if_pos hany, if_neg (by rwa [List.isEmpty_iff])]
  · have hnone := List.filter_eq_nil_iff.mpr fun t ht hselected =>
      hany (List.any_eq_true.mpr ⟨t, ht, hselected⟩)
    rw [if_neg hany, hnone]
    rfl

/-- A check is allowed exactly if its filter selects a stored relationship. -/
theorem check_allowed_iff (s : Store) {r : CheckRequest} (entity : r.entity = some e)
    (subject : r.subject = some u) :
    s.check r = verdict .allowed
      ↔ ∃ t ∈ s.tuples r.tenantId, selects (checkFilter e r.permission u) t = true := by
  rw [check_eq s entity subject, verdict_inj, ← List.any_eq_true]
  split
  · next hany => exact iff_of_true rfl hany
  · next hany => exact iff_of_false (by decide) hany

/-! ### When a check is exact -/

/-- The answer to a check that names its kinds and its permission. -/
theorem check_named_iff (s : Store) {r : CheckRequest} (entity : r.entity = some e)
    (subject : r.subject = some u) (he : e.type ≠ "") (hp : r.permission ≠ "") (hu : u.type ≠ "") :
    s.check r = verdict .allowed
      ↔ asked e r.permission u ∈ s.tuples r.tenantId
        ∨ StoresUserset s r.tenantId e r.permission u := by
  rw [check_allowed_iff s entity subject]
  constructor
  · rintro ⟨t, ht, hselected⟩
    obtain ⟨relation, hrelation, rfl⟩ := (selects_checkFilter_iff he hp hu).mp hselected
    -- The relation of the subject differs from the one asked for only if that was left open.
    by_cases hsame : relation = u.relation
    · rw [hsame] at ht
      exact .inl ht
    · have hempty : u.relation = "" := (matchesText_iff.mp hrelation).resolve_right hsame
      exact .inr ⟨hempty, relation, fun h => hsame (h.trans hempty.symm), ht⟩
  · rintro (ht | ⟨hempty, relation, -, ht⟩)
    · refine ⟨_, ht, (selects_checkFilter_iff he hp hu).mpr ⟨u.relation, ?_, rfl⟩⟩
      exact matchesText_iff.mpr (.inr rfl)
    · refine ⟨_, ht, (selects_checkFilter_iff he hp hu).mpr ⟨relation, ?_, rfl⟩⟩
      exact matchesText_iff.mpr (.inl hempty)

/-- **When a check is exact.** After any run, a valid check is answered by allowed or denied. It is
    allowed if the relationship that it is about is stored, and also if a set of subjects is stored in
    its place; so it tells whether the relationship is stored unless it is not and such a set is. -/
theorem check_exact_iff (now : Int64) (ops : List Operation) (r : CheckRequest)
    (valid : Rule.violation? r = none) :
    ∃ e u, r.entity = some e ∧ r.subject = some u ∧
      let s := (initial now).after ops
      let stored := asked e r.permission u ∈ s.tuples r.tenantId
      let userset := StoresUserset s r.tenantId e r.permission u
      (s.check r = verdict .allowed ∨ s.check r = verdict .denied)
        ∧ (s.check r = verdict .allowed ↔ stored ∨ userset)
        ∧ ((s.check r = verdict .allowed ↔ stored) ↔ ¬(userset ∧ ¬stored)) := by
  obtain ⟨-, -, ⟨e, entity, hentity⟩, hpermission, u, subject, hsubject⟩ :=
    Rule.valid_check_iff.mp valid
  have he := Rule.ne_empty_of_identifier (Rule.allHold_entityRules.mp hentity).1
  have hp := Rule.ne_empty_of_identifier hpermission
  have hu := Rule.ne_empty_of_identifier (Rule.allHold_subjectRules.mp hsubject).1
  refine ⟨e, u, entity, subject, ?_⟩
  intro s stored userset
  have hallowed := check_named_iff s entity subject he hp hu
  refine ⟨?_, hallowed, ?_⟩
  · rw [check_eq s entity subject]
    split
    · exact .inl rfl
    · exact .inr rfl
  · rw [hallowed]
    constructor
    · rintro hexact ⟨huserset, hnot⟩
      exact hnot (hexact.mp (.inr huserset))
    · intro hnot
      refine ⟨?_, .inl⟩
      rintro (hstored | huserset)
      · exact hstored
      · exact Decidable.byContradiction fun hnstored => hnot ⟨huserset, hnstored⟩

/-- The document that is shared in `sharing`. -/
def document : Entity := ⟨"document", "1"⟩

/-- A group of people. -/
def group : Subject := { type := "group", id := "g1" }

/-- The people of the group. -/
def members : Subject := { group with relation := "member" }

/-- The members of the group may view the document; the group itself has no relation to it. -/
def sharing : List Operation :=
  [.write "t1" [asked document "view" members]]

/-- Asks whether a subject may view the document. -/
def viewCheck (u : Subject) : CheckRequest where
  tenantId := "t1"
  metadata := some { depth := 20 }
  entity := some document
  permission := "view"
  subject := some u

/-- The check of the members is exact. -/
theorem check_exact_iff_members :
    let s := (initial 0).after sharing
    s.check (viewCheck members) = verdict .allowed
      ↔ asked document "view" members ∈ s.tuples "t1" := by
  intro s
  obtain ⟨e, u, hentity, hsubject, -, -, hexact⟩ :=
    check_exact_iff 0 sharing (viewCheck members) (by decide)
  cases hentity
  cases hsubject
  exact hexact.mpr fun h => absurd h.1.1 (by decide)

/-- **A check of a subject itself is not exact.** The group is allowed to view the document that only
    its members may view. -/
theorem group_check_allowed :
    Rule.violation? (viewCheck group) = none
      ∧ asked document "view" group ∉ ((initial 0).after sharing).tuples "t1"
      ∧ ((initial 0).after sharing).check (viewCheck group) = verdict .allowed := by
  refine ⟨by decide, by decide, rfl⟩

end Rebac.Store
