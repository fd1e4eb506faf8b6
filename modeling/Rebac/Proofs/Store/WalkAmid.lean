import Mathlib.Data.List.Nodup
import Rebac.Proofs.Store.Paging
import Rebac.Proofs.Store.Watched

namespace Rebac.Store

open Rebac.Message

/-!
# Walks over a store that changes

Between two pages of a walk anything may happen to the store. A token is a position, so what a page
shows depends on what stands before its position by then.

* `WalkAmid` — the pages of a walk and what happens between them; `Walk.amid` says that a walk over a
  store that does not change is one in which nothing happens.
* `CutAmid`, `WalkAmid.cut` — the same told of positions: a page is what stands at its position when
  it is read.
* `CutAmid.flatten` — a list that only grows at its end is read as it is when the last page is read.
* `Operation.Spares`, `found_perform` — operations that remove nothing that a filter selects only add
  at the end of what it selects.
* `walk_amid_writes` — **a walk tolerates writes**.
-/

variable {α : Type} {s : Store} {gaps : List (List Operation)} {pages : List (List α)}

/-! ### Walks and what happens meanwhile -/

/-- The pages of a walk from a token on, and for each page but the last the operations between it and
    the next one. -/
inductive WalkAmid (fetch : Store → Fetch α) :
    Store → String → List (List Operation) → List (List α) → Prop where
  | last {s : Store} {token : String} {items : List α} (page : fetch s token = .ok (items, "")) :
      WalkAmid fetch s token [] [items]
  | more {s : Store} {token next : String} {items : List α} {gap : List Operation}
      {gaps : List (List Operation)} {rest : List (List α)}
      (page : fetch s token = .ok (items, next)) (goesOn : next ≠ "")
      (walk : WalkAmid fetch (s.after gap) next gaps rest) :
      WalkAmid fetch s token (gap :: gaps) (items :: rest)

/-- In a walk over a store that stays as it is, nothing happens between the pages. -/
theorem Walk.amid {fetch : Store → Fetch α} {token : String} (h : Walk (fetch s) token pages) :
    ∃ gaps, gaps.flatten = [] ∧ WalkAmid fetch s token gaps pages := by
  induction h with
  | last page => exact ⟨[], rfl, .last page⟩
  | more page goesOn _ ih =>
    obtain ⟨gaps, hquiet, hwalk⟩ := ih
    exact ⟨[] :: gaps, hquiet, .more page goesOn hwalk⟩

/-! ### Positions -/

/-- The pages of a list that depends on the store, from a position on: each is what stands at its
    position when it is read. -/
inductive CutAmid (limit : Nat) (view : Store → List α) :
    Store → Nat → List (List Operation) → List (List α) → Prop where
  | last {s : Store} {start : Nat} (ends : (view s).length ≤ start + limit) :
      CutAmid limit view s start [] [(view s).drop start]
  | more {s : Store} {start : Nat} {gap : List Operation} {gaps : List (List Operation)}
      {rest : List (List α)} (goesOn : start + limit < (view s).length)
      (walk : CutAmid limit view (s.after gap) (start + limit) gaps rest) :
      CutAmid limit view s start (gap :: gaps) (((view s).drop start).take limit :: rest)

/-- A page that is found starts at the position of its token. -/
theorem offset?_of_cut {p : Page} {items found : List α} {next : String}
    (h : p.cut items = .ok (found, next)) : ∃ start, offset? p.token = some start := by
  unfold Page.cut at h
  split at h
  · cases h
  · next start hstart => exact ⟨start, hstart⟩

/-- **The pages of a walk stand at their positions**, whatever happens meanwhile. -/
theorem WalkAmid.cut {view : Store → List α} {size : UInt32} {token : String} {start : Nat}
    (walk : WalkAmid (fun s t => (Page.mk size t).cut (view s)) s token gaps pages)
    (h : offset? token = some start) : CutAmid (Page.mk size "").limit view s start gaps pages := by
  have hlimit : ∀ t, (Page.mk size t).limit = (Page.mk size "").limit := fun _ => rfl
  induction walk generalizing start with
  | @last s token items page =>
    rw [cut_eq _ h, hlimit] at page
    obtain ⟨rfl, hend⟩ := Prod.mk.inj (Except.ok.inj page)
    have hends : (view s).length ≤ start + (Page.mk size "").limit := by
      by_contra hlt
      rw [if_pos (by omega)] at hend
      exact toString_ne_empty _ hend
    rw [List.take_of_length_le (by rw [List.length_drop]; omega)]
    exact .last hends
  | @more s token next items gap gaps rest page goesOn walk ih =>
    rw [cut_eq _ h, hlimit] at page
    obtain ⟨rfl, hnext⟩ := Prod.mk.inj (Except.ok.inj page)
    by_cases hlt : start + (Page.mk size "").limit < (view s).length
    · rw [if_pos hlt] at hnext
      -- The next page was found as well, so its token stands for the position it was made for.
      have hfound : ∃ k, offset? next = some k := by
        cases walk with
        | last page' => exact offset?_of_cut page'
        | more page' => exact offset?_of_cut page'
      obtain ⟨k, hk⟩ := hfound
      have hstart : k = start + (Page.mk size "").limit := by
        rw [← hnext] at hk
        exact eq_of_offset?_toString hk
      exact .more hlt (ih (hstart ▸ hk))
    · rw [if_neg hlt] at hnext
      exact absurd hnext.symm goesOn

/-! ### Lists that grow at the end -/

/-- What grows at its end with every operation of a run has grown at its end after the run. -/
theorem prefix_after {view : Store → List α} {ops : List Operation}
    (grows : ∀ h ∈ s.history ops, view h.1 <+: view (h.1.perform h.2).2) :
    view s <+: view (s.after ops) := by
  induction ops generalizing s with
  | nil => exact List.prefix_refl _
  | cons op rest ih =>
    obtain ⟨hfirst, hrest⟩ := List.forall_mem_cons.mp grows
    exact hfirst.trans (ih hrest)

/-- **A list that only grows at its end is read as it is when the last page is read.** -/
theorem CutAmid.flatten {limit start : Nat} {view : Store → List α}
    (h : CutAmid limit view s start gaps pages)
    (grows : ∀ h ∈ s.history gaps.flatten, view h.1 <+: view (h.1.perform h.2).2) :
    pages.flatten = (view (s.after gaps.flatten)).drop start := by
  induction h with
  | last ends => exact List.flatten_singleton
  | @more s start gap gaps rest goesOn walk ih =>
    rw [List.flatten_cons] at grows
    have hrest := ih fun h hh => grows h (by rw [history_append]; exact List.mem_append_right _ hh)
    obtain ⟨added, hadded⟩ := prefix_after grows
    rw [after_append] at hadded
    rw [List.flatten_cons, List.flatten_cons, after_append, hrest, ← hadded]
    -- What stood before the next position when this page was read still stands there.
    rw [List.drop_append_of_le_length (by omega), List.drop_append_of_le_length (by omega),
      ← List.append_assoc, ← List.drop_drop, List.take_append_drop]

/-! ### What is added at the end -/

/-- Whether an operation leaves alone what a filter selects of a tenant: it is no removal of something
    stored that the filter selects, and no removal of the tenant. -/
def Operation.Spares (s : Store) (tenant : String) (filter : TupleFilter) : Operation → Prop
  | delete tenant' filter' =>
    tenant' = tenant →
      ∀ t ∈ s.tuples tenant, selects filter t = true → selects filter' t = false
  | deleteTenant id => id ≠ tenant
  | _ => True

/-- An operation that spares what a filter selects removes none of it. -/
theorem removes_of_spares {tenant : String} {filter : TupleFilter} {op : Operation}
    (h : op.Spares s tenant filter) {t : Tuple} (stored : t ∈ s.tuples tenant)
    (selected : selects filter t = true) : op.removes s tenant t = false := by
  cases op with
  | delete tenant' filter' =>
    show (decide (tenant' = tenant) && selects filter' t) = false
    by_cases htenant : tenant' = tenant
    · rw [h htenant t stored selected, Bool.and_false]
    · rw [decide_eq_false htenant, Bool.false_and]
  | deleteTenant id =>
    show (decide (id = tenant) && _) = false
    rw [decide_eq_false h, Bool.false_and]
  | _ => rfl

/-- What a filter selects only grows at its end if the operation removes nothing of it. -/
theorem found_perform {tenant : String} {filter : TupleFilter} {op : Operation}
    (h : op.Spares s tenant filter) :
    (s.tuples tenant).filter (selects filter)
      <+: ((s.perform op).2.tuples tenant).filter (selects filter) := by
  have hkept : ((s.tuples tenant).filter fun t => !op.removes s tenant t).filter (selects filter)
      = (s.tuples tenant).filter (selects filter) := by
    rw [List.filter_filter]
    refine List.filter_congr fun t ht => ?_
    cases hselected : selects filter t with
    | false => rfl
    | true => rw [removes_of_spares h ht hselected]; rfl
  rw [tuples_perform, List.filter_append, hkept]
  exact List.prefix_append _ _

/-- **A walk tolerates writes.** If no operation between its pages removes anything that the filter
    selects, or the tenant, the pages together are what the filter selects when the last page is read,
    in stored order. So all that was selected when the walk started comes exactly once, and nothing
    comes twice. -/
theorem walk_amid_writes (now : Int64) (earlier : List Operation) (tenant : String)
    (filter : TupleFilter) (size : UInt32) {gaps : List (List Operation)}
    {pages : List (List Tuple)}
    (walk : WalkAmid (fun s token => s.read tenant filter ⟨size, token⟩)
      ((initial now).after earlier) "" gaps pages)
    (spared : ∀ h ∈ ((initial now).after earlier).history gaps.flatten,
      h.2.Spares h.1 tenant filter) :
    let s := (initial now).after earlier
    let found (s : Store) := (s.tuples tenant).filter (selects filter)
    pages.flatten = found (s.after gaps.flatten)
      ∧ (∀ t ∈ found s, pages.flatten.count t = 1)
      ∧ pages.flatten.Nodup := by
  intro s found
  have hgrows : ∀ h ∈ s.history gaps.flatten, found h.1 <+: found (h.1.perform h.2).2 :=
    fun h hh => found_perform (spared h hh)
  have hall : pages.flatten = found (s.after gaps.flatten) :=
    (walk.cut offset?_empty).flatten hgrows
  have hnodup : pages.flatten.Nodup := by
    rw [hall]
    show (found (((initial now).after earlier).after gaps.flatten)).Nodup
    rw [← after_append]
    exact (nodup_after now _ tenant).filter _
  refine ⟨hall, ?_, hnodup⟩
  intro t ht
  have hmem : t ∈ pages.flatten := by
    rw [hall]
    exact (prefix_after hgrows).subset ht
  exact List.count_eq_one_of_mem hnodup hmem

/-- Three documents that Alice may view. -/
def viewed : List Operation :=
  [.write "t1" [viewing "1", viewing "2", viewing "3"]]

/-- The documents that someone may view. -/
def views : TupleFilter where
  entity := some { type := "document" }
  relation := "view"

/-- What happens while the documents are read: another one is written, and something that no filter for
    documents selects is removed, as are the data and the registration of another tenant. -/
def meanwhile : List Operation :=
  [.write "t1" [viewing "4", viewing "2"], .delete "t1" { entity := some { type := "folder" } },
    .createTenant 0 "t2" "two", .writeSchema "t2" "entity user {}" "v1", .delete "t2" {},
    .deleteTenant "t2"]

/-- The three documents and the one that is written while they are read come once each. -/
theorem walk_amid_writes_meanwhile :
    let s := (initial 0).after viewed
    let pages := [[viewing "1", viewing "2"], [viewing "3", viewing "4"]]
    WalkAmid (fun s token => s.read "t1" views ⟨2, token⟩) s "" [meanwhile] pages
      ∧ (∀ h ∈ s.history meanwhile, h.2.Spares h.1 "t1" views)
      ∧ pages.flatten = ((s.after meanwhile).tuples "t1").filter (selects views)
      ∧ pages.flatten.Nodup := by
  intro s pages
  have hfirst : ((initial 0).after viewed).read "t1" views ⟨2, ""⟩
      = .ok ([viewing "1", viewing "2"], "2") := by rfl
  have hsecond : (((initial 0).after viewed).after meanwhile).read "t1" views ⟨2, "2"⟩
      = .ok ([viewing "3", viewing "4"], "") := by rfl
  have hwalk : WalkAmid (fun s token => s.read "t1" views ⟨2, token⟩) s "" [meanwhile] pages :=
    .more hfirst (by decide) (.last hsecond)
  have hspared : ∀ h ∈ s.history meanwhile, h.2.Spares h.1 "t1" views := by
    simp only [meanwhile, history, List.forall_mem_cons]
    refine ⟨trivial, ?_, trivial, trivial, ?_, ?_, nofun⟩
    · intro _
      decide
    · exact fun h => absurd h (by decide)
    · show "t2" ≠ "t1"
      decide
  obtain ⟨hall, -, hnodup⟩ := walk_amid_writes 0 viewed "t1" views 2 hwalk hspared
  exact ⟨hwalk, hspared, hall, hnodup⟩

end Rebac.Store
