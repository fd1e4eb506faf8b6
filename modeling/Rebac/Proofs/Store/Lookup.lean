import Mathlib.Data.List.Nodup
import Rebac.Proofs.Steps
import Rebac.Proofs.Store.Check

namespace Rebac.Store

open Rebac.Message

/-!
# Look-ups

A look-up asks at once what checks ask one entity at a time, and answers a page of relationships at
a time.

* `mem_entityIds`, `ascending_entityIds` — the entities of a page, in ascending order.
* `lookupPage`, `lookupPage_eq` — a look-up is a walk over the relationships that its filter selects.
* `eq_asked_of_selected`, `disjoint_pages` — where nothing is left open, an entity stands for one
  relationship, and is on one page only.
* `lookup_agrees_with_check` — **a look-up agrees with the checks**: walked to its end, it tells the
  entities for which a check is allowed.
-/

variable {s : Store} {r : LookupRequest} {u : Subject} {t : Tuple}

/-! ### The entities of a page -/

/-- Putting a name into a list adds this name and no other. -/
theorem mem_insertName {name id : String} {ids : List String} :
    id ∈ insertName name ids ↔ id = name ∨ id ∈ ids := by
  induction ids with
  | nil => simp [insertName]
  | cons n rest ih =>
    unfold insertName
    split
    · next h => simp [h]
    · split
      · simp
      · simp [ih, or_left_comm]

/-- Names stay in ascending order when another one is put between them. -/
theorem ascending_insertName {name : String} {ids : List String} (h : ids.Pairwise (· < ·)) :
    (insertName name ids).Pairwise (· < ·) := by
  induction ids with
  | nil => simp [insertName]
  | cons n rest ih =>
    obtain ⟨hn, hrest⟩ := List.pairwise_cons.mp h
    unfold insertName
    split
    · exact h
    · next hne =>
      split
      · next hlt =>
        refine List.pairwise_cons.mpr ⟨?_, h⟩
        intro id hid
        rcases List.mem_cons.mp hid with rfl | hid
        · exact hlt
        · exact String.lt_trans hlt (hn id hid)
      · next hge =>
        refine List.pairwise_cons.mpr ⟨?_, ih hrest⟩
        intro id hid
        rcases mem_insertName.mp hid with rfl | hid
        · -- The name neither is the first one nor stands before it.
          have hle : n ≤ id := String.not_lt.mp hge
          exact Decidable.byContradiction fun hnlt =>
            hne (String.le_antisymm (String.not_lt.mp hnlt) hle)
        · exact hn id hid

/-- Adds the entity of a relationship to the entities seen so far. -/
def addEntity (ids : List String) (t : Tuple) : List String :=
  match t.entity with
  | some e => insertName e.id ids
  | none => ids

/-- A relationship adds the id of its entity, if it has one. -/
theorem mem_addEntity {ids : List String} {id : String} :
    id ∈ addEntity ids t ↔ t.entity.map Entity.id = some id ∨ id ∈ ids := by
  unfold addEntity
  cases t.entity with
  | none => simp
  | some e => simp [mem_insertName, eq_comm]

/-- The entities of a page are added one relationship after the other. -/
theorem entityIds_eq (found : List Tuple) : entityIds found = found.foldl addEntity [] := rfl

/-- The entities of a page are those of its relationships. -/
theorem mem_entityIds {found : List Tuple} {id : String} :
    id ∈ entityIds found ↔ ∃ t ∈ found, t.entity.map Entity.id = some id := by
  -- On the page, with any names seen before.
  have hfold : ∀ ids, id ∈ found.foldl addEntity ids
      ↔ (∃ t ∈ found, t.entity.map Entity.id = some id) ∨ id ∈ ids := by
    induction found with
    | nil => simp
    | cons t rest ih =>
      intro ids
      rw [List.foldl_cons, ih, mem_addEntity, List.exists_mem_cons_iff, or_left_comm,
        or_assoc]
  rw [entityIds_eq, hfold]
  simp

/-- The entities of a page are in ascending order, each once. -/
theorem ascending_entityIds (found : List Tuple) : (entityIds found).Pairwise (· < ·) := by
  have hfold : ∀ ids : List String, ids.Pairwise (· < ·) →
      (found.foldl addEntity ids).Pairwise (· < ·) := by
    induction found with
    | nil => exact fun _ h => h
    | cons t rest ih =>
      intro ids h
      refine ih _ ?_
      unfold addEntity
      split
      · exact ascending_insertName h
      · exact h
  exact hfold [] List.Pairwise.nil

/-- Putting a name into a list makes it longer by one at most. -/
theorem length_insertName_le (name : String) (ids : List String) :
    (insertName name ids).length ≤ ids.length + 1 := by
  induction ids with
  | nil => simp [insertName]
  | cons n rest ih =>
    unfold insertName
    split
    · simp
    · split
      · simp
      · simpa using ih

/-- A page has no more entities than relationships. -/
theorem length_entityIds_le (found : List Tuple) : (entityIds found).length ≤ found.length := by
  have hfold : ∀ ids : List String,
      (found.foldl addEntity ids).length ≤ ids.length + found.length := by
    induction found with
    | nil => simp
    | cons t rest ih =>
      intro ids
      have hadd : (addEntity ids t).length ≤ ids.length + 1 := by
        unfold addEntity
        split
        · exact length_insertName_le _ _
        · omega
      have hrest := ih (addEntity ids t)
      rw [List.foldl_cons, List.length_cons]
      omega
  rw [entityIds_eq]
  simpa using hfold []

/-! ### A look-up as a walk -/

/-- The page of a look-up at a token. -/
def lookupPage (s : Store) (r : LookupRequest) : Fetch String := fun token =>
  (s.lookup { r with continuousToken := token }).map fun page =>
    (page.entityIds, page.continuousToken)

/-- The relationships that a look-up reads. -/
def selected (s : Store) (r : LookupRequest) (u : Subject) : List Tuple :=
  (s.tuples r.tenantId).filter (selects (lookupFilter r.entityType r.permission u))

/-- A look-up reads a page of relationships and names their entities. -/
theorem lookup_eq (s : Store) (subject : r.subject = some u) :
    s.lookup r = ((Page.mk r.pageSize r.continuousToken).cut (s.selected r u)).map fun page =>
      ⟨entityIds page.1, page.2⟩ := by
  unfold lookup Store.read selected
  rw [subject]
  show (Page.cut _ _ >>= fun page => _) = _
  cases Page.cut ⟨r.pageSize, r.continuousToken⟩ _ with
  | error => rfl
  | ok page => rfl

/-- A look-up cuts its pages from the relationships that it selects. -/
theorem lookupPage_eq (s : Store) (subject : r.subject = some u) :
    s.lookupPage r = fun token =>
      ((Page.mk r.pageSize token).cut (s.selected r u)).map fun page =>
        (entityIds page.1, page.2) := by
  funext token
  have hlookup := lookup_eq (r := { r with continuousToken := token }) s subject
  rw [lookupPage, hlookup]
  show (Except.map _ (Page.cut ⟨r.pageSize, token⟩ (s.selected r u))).map _ = _
  cases Page.cut ⟨r.pageSize, token⟩ (s.selected r u) with
  | error => rfl
  | ok page => rfl

/-- The check that asks about one entity what a look-up asks about all of them. -/
def checkOf (r : LookupRequest) (u : Subject) (id : String) (metadata : Option CheckMetadata) :
    CheckRequest :=
  ⟨r.tenantId, metadata, some ⟨r.entityType, id⟩, r.permission, some u⟩

/-- A check is allowed exactly if the look-up selects a relationship of its entity. -/
theorem check_checkOf (s : Store) (r : LookupRequest) (u : Subject) (id : String)
    (metadata : Option CheckMetadata) :
    s.check (checkOf r u id metadata) = verdict .allowed
      ↔ ∃ t ∈ s.selected r u, t.entity.map Entity.id = some id := by
  rw [check_allowed_iff s (e := ⟨r.entityType, id⟩) (u := u) rfl rfl]
  simp only [selects_checkFilter, selected, List.mem_filter, and_assoc]
  rfl

/-- Where nothing is left open, an entity stands for one relationship. -/
theorem eq_asked_of_selected (he : r.entityType ≠ "") (hp : r.permission ≠ "") (hu : u.type ≠ "")
    (hrelation : u.relation ≠ "") (ht : t ∈ s.selected r u) {id : String}
    (hid : t.entity.map Entity.id = some id) : t = asked ⟨r.entityType, id⟩ r.permission u := by
  have hcheck : selects (checkFilter ⟨r.entityType, id⟩ r.permission u) t = true :=
    selects_checkFilter.mpr ⟨(List.mem_filter.mp ht).2, hid⟩
  obtain ⟨relation, hsame, rfl⟩ := (selects_checkFilter_iff he hp hu).mp hcheck
  rw [(matchesText_of_ne hrelation).mp hsame]

/-- An entity is on some page exactly if it is the one of a relationship on some page. -/
theorem mem_pages {found : List (List Tuple)} {id : String} :
    (∃ page ∈ found.map entityIds, id ∈ page)
      ↔ ∃ t ∈ found.flatten, t.entity.map Entity.id = some id := by
  simp only [List.mem_map, exists_exists_and_eq_and, mem_entityIds, List.mem_flatten]
  constructor
  · rintro ⟨page, hpage, t, ht, hid⟩
    exact ⟨t, ⟨page, hpage, ht⟩, hid⟩
  · rintro ⟨t, ⟨page, hpage, ht⟩, hid⟩
    exact ⟨page, hpage, t, ht, hid⟩

/-- Where nothing is left open, no two pages share an entity: it would stand for one relationship on
    both of them, and a relationship is stored once. -/
theorem disjoint_pages {found : List (List Tuple)} (nodup : (s.tuples r.tenantId).Nodup)
    (hflatten : found.flatten = s.selected r u) (he : r.entityType ≠ "") (hp : r.permission ≠ "")
    (hu : u.type ≠ "") (hrelation : u.relation ≠ "") :
    (found.map entityIds).Pairwise List.Disjoint := by
  have hnodup : found.flatten.Nodup := by
    rw [hflatten]
    exact nodup.filter _
  have hselected : ∀ page ∈ found, ∀ t ∈ page, t ∈ s.selected r u := by
    intro page hpage t ht
    rw [← hflatten]
    exact List.mem_flatten.mpr ⟨page, hpage, ht⟩
  rw [List.pairwise_map]
  refine (List.nodup_flatten.mp hnodup).2.imp_of_mem ?_
  intro page page' hpage hpage' hdisjoint id hid hid'
  obtain ⟨t, ht, htid⟩ := mem_entityIds.mp hid
  obtain ⟨t', ht', htid'⟩ := mem_entityIds.mp hid'
  have hsame : t' = t := by
    rw [eq_asked_of_selected he hp hu hrelation (hselected page hpage t ht) htid,
      eq_asked_of_selected he hp hu hrelation (hselected page' hpage' t' ht') htid']
  rw [hsame] at ht'
  exact hdisjoint ht ht'

/-- **A look-up agrees with the checks.** After any run, the walk of a look-up with a subject from
    the empty token on ends, and it is the only one. An entity is on one of its pages exactly if the
    check that asks about it is allowed. Every page is in strictly ascending order, and if the kinds,
    the permission and the relation of the subject are given, no two pages share an entity.

    A list in memory has positions of 64 bits; `fits` says so of the relationships of the tenant. -/
theorem lookup_agrees_with_check (now : Int64) (ops : List Operation) (r : LookupRequest)
    (u : Subject) (subject : r.subject = some u)
    (fits : ((initial now).after ops).count r.tenantId ≤ 2 ^ 64) :
    let s := (initial now).after ops
    ∃ pages : List (List String),
      (∀ pages', Walk (s.lookupPage r) "" pages' ↔ pages' = pages)
        ∧ (∀ id metadata, (∃ page ∈ pages, id ∈ page)
            ↔ s.check (checkOf r u id metadata) = verdict .allowed)
        ∧ (∀ page ∈ pages, page.Pairwise (· < ·))
        ∧ (r.entityType ≠ "" → r.permission ≠ "" → u.type ≠ "" → u.relation ≠ "" →
            pages.Pairwise List.Disjoint) := by
  intro s
  have hlength : (s.selected r u).length ≤ 2 ^ 64 :=
    Nat.le_trans (List.length_filter_le _ _) fits
  obtain ⟨found, hcut, hflatten⟩ := walk_cut hlength r.pageSize offset?_empty
  rw [List.drop_zero] at hflatten
  have hwalk : Walk (s.lookupPage r) "" (found.map entityIds) := by
    rw [lookupPage_eq s subject]
    exact hcut.map entityIds
  refine ⟨found.map entityIds, ?_, ?_, ?_, ?_⟩
  · intro pages'
    constructor
    · exact fun hwalk' => hwalk'.unique hwalk
    · rintro rfl
      exact hwalk
  · intro id metadata
    rw [check_checkOf, mem_pages, hflatten]
  · intro page hpage
    obtain ⟨page, -, rfl⟩ := List.mem_map.mp hpage
    exact ascending_entityIds page
  · exact disjoint_pages (nodup_after now ops r.tenantId) hflatten

/-- Three documents are shared with the members of the group, and another one with the group itself. -/
def sharingMany : List Operation :=
  [.write "t1" [asked ⟨"document", "9"⟩ "view" members, asked ⟨"document", "2"⟩ "view" group,
    asked ⟨"document", "10"⟩ "view" members, asked ⟨"document", "1"⟩ "view" members]]

/-- Asks which documents the members of the group may view, two relationships a page. -/
def membersLookup : LookupRequest where
  tenantId := "t1"
  entityType := "document"
  permission := "view"
  subject := some members
  pageSize := 2

/-- The members of the group find the three documents on two pages, and no other document. -/
theorem lookup_agrees_with_check_sharing :
    let s := (initial 0).after sharingMany
    Walk (s.lookupPage membersLookup) "" [["10", "9"], ["1"]]
      ∧ (∀ id, s.check (checkOf membersLookup members id none) = verdict .allowed
        ↔ id = "10" ∨ id = "9" ∨ id = "1")
      ∧ List.Disjoint ["10", "9"] ["1"] := by
  intro s
  obtain ⟨pages, hwalk, hallowed, -, hdisjoint⟩ :=
    lookup_agrees_with_check 0 sharingMany membersLookup members rfl (by decide)
  have hfirst : s.lookupPage membersLookup "" = .ok (["10", "9"], "2") :=
    toOption_eq_some_iff.mp (by decide +kernel)
  have hlast : s.lookupPage membersLookup "2" = .ok (["1"], "") :=
    toOption_eq_some_iff.mp (by decide +kernel)
  have hpages : Walk (s.lookupPage membersLookup) "" [["10", "9"], ["1"]] :=
    .more hfirst (by decide) (.last hlast)
  obtain rfl : [["10", "9"], ["1"]] = pages := (hwalk _).mp hpages
  refine ⟨hpages, fun id => ?_, ?_⟩
  · rw [← hallowed id none]
    simp [or_assoc]
  · have hapart := hdisjoint (by decide) (by decide) (by decide) (by decide)
    exact (List.pairwise_cons.mp hapart).1 _ (List.mem_singleton.mpr rfl)

end Rebac.Store
