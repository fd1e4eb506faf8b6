import Rebac.Proofs.Service.Calls
import Rebac.Proofs.Store.Check
import Rebac.Proofs.Store.Feed
import Rebac.Proofs.Store.WalkAmid

namespace Rebac.Service

open Rebac.Message Rebac.Store

/-!
# What a delete removes

A delete and a reading select relationships on their own. This says that they select the same, and
what the rules of a request add.

* `flatten_of_walk`, `shown_by_walk` — the pages of a walk over a list are the list, so those of a walk
  over what a filter selects show just this.
* `Removal` — some relationships of a tenant are removed and published, and all else is kept;
  `removal_delete` says that a delete is one of what its filter selects.
* `read_after_delete` — nothing is left to read.
* `entity_of_selects`, `filtered_of_valid` — a valid request names a kind of entity, and its filter
  selects no other.
* `delete_removes_shown` — **a delete removes what a reading shows**.
-/

variable {s : Store} {tenant : String} {filter : TupleFilter}

/-! ### What a reading shows -/

/-- The pages of a walk over a list are the list. -/
theorem flatten_of_walk {α : Type} {items : List α} {size : UInt32} {pages : List (List α)}
    (walk : Walk (fun token => (Page.mk size token).cut items) "" pages) :
    pages.flatten = items := by
  -- The list depends on no store, so any store will do.
  obtain ⟨gaps, -, hamid⟩ := @Walk.amid _ (Store.initial 0) pages
    (fun _ token => (Page.mk size token).cut items) "" walk
  exact (hamid.cut offset?_empty).flatten fun _ _ => List.prefix_refl _

/-- The pages of a walk show what the filter selects, in stored order. -/
theorem shown_by_walk {size : UInt32} {pages : List (List Tuple)}
    (walk : Walk (fun token => s.read tenant filter ⟨size, token⟩) "" pages) :
    pages.flatten = (s.tuples tenant).filter (selects filter) :=
  flatten_of_walk walk

/-! ### What a delete leaves -/

/-- Some relationships of a tenant are removed and published, and all else is kept. -/
structure Removal (tenant : String) (removed : List Tuple) (s s' : Store) : Prop where
  /-- They are what is gone, in stored order. -/
  gone : (s.tuples tenant).filter (· ∉ s'.tuples tenant) = removed
  /-- The others of the tenant stay in their order. -/
  kept : s'.tuples tenant = (s.tuples tenant).filter (· ∉ removed)
  /-- They come into the log as one change set, unless there are none. -/
  logged : s'.log.newestFirst
    = changeSet tenant s'.headSnapshot .delete removed ++ s.log.newestFirst
  others : ∀ other, other ≠ tenant → s'.tuples other = s.tuples other
  schemas : s'.schemasOf = s.schemasOf
  registry : s'.registry = s.registry

/-- **A delete removes what its filter selects.** -/
theorem removal_delete (s : Store) (tenant : String) (filter : TupleFilter) :
    Removal tenant ((s.tuples tenant).filter (selects filter)) s (s.delete tenant filter).2 := by
  have hleft : (s.delete tenant filter).2.tuples tenant
      = (s.tuples tenant).filter fun t => !selects filter t := by
    rw [tuples_delete, if_pos rfl]
  refine ⟨?_, ?_, log_delete s tenant filter, ?_, rfl, rfl⟩
  -- Of what is stored, the filter selects just what is not left.
  · rw [hleft]
    refine List.filter_congr fun t ht => ?_
    simp [ht]
  · rw [hleft]
    refine List.filter_congr fun t ht => ?_
    simp [ht]
  · intro other hother
    rw [tuples_delete, if_neg hother.symm]

/-- One who watches since before a removal receives it as one change set if it is of the watched tenant
    and removes anything, and nothing otherwise. -/
theorem Removal.received {removed : List Tuple} {s' : Store} (h : Removal tenant removed s s')
    (watched : String) :
    ((s.watch watched).poll s'.log).1
      = if watched = tenant ∧ removed ≠ [] then
          [.ok ⟨s'.headSnapshot, removed.map fun t => ⟨.delete, some t⟩⟩]
        else [] := by
  have hset : (changeSet tenant s'.headSnapshot .delete removed).reverse
      = changeSet tenant s'.headSnapshot .delete removed := by
    unfold changeSet
    split <;> rfl
  -- Since it began to watch, nothing else has come into the log.
  have hunread : (s.watch watched).unread s'.log
      = changeSet tenant s'.headSnapshot .delete removed := by
    rw [Watcher.unread_of_grown (l := s.log) (Nat.le_refl _) (hset.symm ▸ h.logged),
      Watcher.unread_of_seen rfl, List.nil_append]
  rw [Watcher.poll_eq_due, hunread]
  show due watched _ = _
  unfold changeSet
  by_cases hnone : removed = []
  · rw [if_pos hnone, if_neg fun h => h.2 hnone]
    rfl
  · rw [if_neg hnone]
    by_cases htenant : tenant = watched
    · rw [if_pos ⟨htenant.symm, hnone⟩, htenant]
      simp [due, ownOf, bufferSize]
    · rw [if_neg fun h => htenant h.1.symm]
      simp [due, ownOf, bufferSize, htenant]

/-- After a delete there is nothing to read with its filter. -/
theorem read_after_delete (s : Store) (tenant : String) (filter : TupleFilter) {page : Page}
    {start : Nat} (h : offset? page.token = some start) :
    (s.delete tenant filter).2.read tenant filter page = .ok ([], "") := by
  have hnone : ((s.delete tenant filter).2.tuples tenant).filter (selects filter) = [] := by
    rw [tuples_delete, if_pos rfl, List.filter_filter]
    exact List.filter_eq_nil_iff.mpr fun t _ => by simp
  unfold Store.read
  rw [hnone, cut_eq page h]
  simp

/-! ### What a valid request removes -/

/-- A filter that names a kind of entity selects no other, whatever else it says. -/
theorem entity_of_selects {t : Tuple} {entity : EntityFilter} (h : selects filter t = true)
    (named : filter.entity = some entity) (kind : entity.type ≠ "") :
    ∃ e, t.entity = some e ∧ e.type = entity.type := by
  unfold selects at h
  split at h
  · next e u hentity hsubject =>
    rw [named, Bool.and_eq_true, Bool.and_eq_true, Option.all_some, selectsEntity,
      Bool.and_eq_true] at h
    exact ⟨e, hentity, (matchesText_of_ne kind).mp h.1.1.1⟩
  · exact absurd h Bool.false_ne_true

/-- The filter of a valid request names a kind of entity. -/
theorem filtered_of_valid {m : DataDeleteRequest} (valid : Rule.violation? m = none) :
    ∃ filter entity, m.tupleFilter = some filter ∧ filter.entity = some entity
      ∧ entity.type ≠ "" := by
  obtain ⟨-, filter, hfilter, hrules⟩ := Rule.valid_delete_iff.mp valid
  rw [Rule.filterRules, Rule.allHold_append, Rule.allHold_append, Rule.allHold_required] at hrules
  obtain ⟨⟨⟨entity, hentity, hnames⟩, -⟩, -⟩ := hrules
  rw [Rule.allHold_cons, Rule.named_holds] at hnames
  exact ⟨filter, entity, hfilter, hentity, Rule.ne_empty_of_identifier hnames.1⟩

/-- **A delete removes what a reading shows.** In every store, the walk over what a filter selects ends
    if its positions fit in 64 bits; a delete with the same filter removes just what the pages of such a
    walk show, publishes it in the same order, keeps everything else, and leaves nothing to read. A
    valid request removes only relationships of its tenant, and of the kind of entity that its filter
    names. -/
theorem delete_removes_shown (s : Store) :
    (∀ tenant filter,
      let s' := (s.delete tenant filter).2
      (∀ size, ((s.tuples tenant).filter (selects filter)).length ≤ 2 ^ 64 →
          ∃ pages, Walk (fun token => s.read tenant filter ⟨size, token⟩) "" pages)
        ∧ (∀ size pages, Walk (fun token => s.read tenant filter ⟨size, token⟩) "" pages →
          Removal tenant pages.flatten s s'
            ∧ ∀ watched, ((s.watch watched).poll s'.log).1
                = if watched = tenant ∧ pages.flatten ≠ [] then
                    [.ok ⟨s'.headSnapshot, pages.flatten.map fun t => ⟨.delete, some t⟩⟩]
                  else [])
        ∧ ∀ page : Page, (offset? page.token).isSome →
          s'.read tenant filter page = .ok ([], ""))
      ∧ ∀ (e : Evaluator) (c : Rpc.Context) (m : DataDeleteRequest), Rule.violation? m = none →
          ∀ tenant, ∀ t ∈ s.tuples tenant,
            t ∉ (Rpc.deleteData.handle e c s m).2.tuples tenant →
              tenant = m.tenantId
                ∧ ∃ filter kind entity, m.tupleFilter = some filter ∧ filter.entity = some kind
                    ∧ t.entity = some entity ∧ entity.type = kind.type := by
  refine ⟨fun tenant filter => ⟨?_, ?_, ?_⟩, ?_⟩
  · intro size hfits
    obtain ⟨pages, hwalk, -⟩ := walk_paged hfits size offset?_empty
    exact ⟨pages, hwalk⟩
  · intro size pages walk
    rw [shown_by_walk walk]
    have hremoval := removal_delete s tenant filter
    exact ⟨hremoval, hremoval.received⟩
  · intro page hpage
    obtain ⟨start, hstart⟩ := Option.isSome_iff_exists.mp hpage
    exact read_after_delete s tenant filter hstart
  · intro e c m valid tenant t stored gone
    -- The filter of a valid request names a kind, and an empty kind would have selected all.
    obtain ⟨filter, kind, hfilter, hkind, hne⟩ := filtered_of_valid valid
    have hstore : (Rpc.deleteData.handle e c s m).2 = (s.delete m.tenantId filter).2 := by
      show (s.delete m.tenantId (m.tupleFilter.getD {})).2 = _
      rw [hfilter, Option.getD_some]
    rw [hstore, tuples_delete] at gone
    -- What is gone was selected, in the tenant of the request.
    by_cases htenant : m.tenantId = tenant
    · rw [if_pos htenant] at gone
      have hselected : selects filter t = true := by
        simpa [stored] using gone
      obtain ⟨entity, hentity, htype⟩ := entity_of_selects hselected hkind hne
      exact ⟨htenant.symm, filter, kind, entity, hfilter, hkind, hentity, htype⟩
    · rw [if_neg htenant] at gone
      exact absurd stored gone

/-- Someone may view a folder. -/
def inFolder : Tuple :=
  ⟨some ⟨"folder", "1"⟩, "view", some ⟨"user", "alice", ""⟩⟩

/-- A folder stands between two documents, and another tenant has one of the documents. -/
def filed : List Operation :=
  [.write "t1" [viewing "1", inFolder, viewing "2"], .write "t2" [viewing "1"]]

/-- The documents are read on two pages and removed; the folder stays, and it is not what a valid
    request for documents removes. -/
theorem delete_removes_shown_filed :
    let s := (initial 0).after filed
    let s' := (s.delete "t1" views).2
    let m : DataDeleteRequest := ⟨"t1", some views⟩
    Walk (fun token => s.read "t1" views ⟨1, token⟩) "" [[viewing "1"], [viewing "2"]]
      ∧ Removal "t1" [viewing "1", viewing "2"] s s' ∧ s'.tuples "t1" = [inFolder]
      ∧ s'.read "t1" views {} = .ok ([], "")
      ∧ Rule.violation? m = none
      ∧ ∃ entity, (viewing "1").entity = some entity ∧ entity.type = "document" := by
  intro s s' m
  obtain ⟨hdelete, hrequest⟩ := delete_removes_shown s
  obtain ⟨-, hshown, hafter⟩ := hdelete "t1" views
  have hfirst : ((initial 0).after filed).read "t1" views ⟨1, ""⟩ = .ok ([viewing "1"], "1") := by
    rfl
  have hsecond : ((initial 0).after filed).read "t1" views ⟨1, "1"⟩ = .ok ([viewing "2"], "") := by
    rfl
  have hwalk : Walk (fun token => s.read "t1" views ⟨1, token⟩) "" [[viewing "1"], [viewing "2"]] :=
    .more hfirst (by decide) (.last hsecond)
  obtain ⟨hremoval, -⟩ := hshown 1 _ hwalk
  have hvalid : Rule.violation? m = none := by decide
  have hstored : viewing "1" ∈ s.tuples "t1" := by decide
  have hgone : viewing "1" ∉ (Rpc.deleteData.handle .direct ⟨0, ""⟩ s m).2.tuples "t1" := by
    decide
  obtain ⟨-, _, _, entity, hfilter, hkind, hentity, htype⟩ :=
    hrequest .direct ⟨0, ""⟩ m hvalid "t1" _ hstored hgone
  cases hfilter
  cases hkind
  exact ⟨hwalk, hremoval, rfl, hafter {} rfl, hvalid, entity, hentity, htype⟩

end Rebac.Service
