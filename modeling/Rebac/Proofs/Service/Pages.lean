import Rebac.Proofs.Rule.Valid
import Rebac.Proofs.Service.Calls
import Rebac.Proofs.Store.Lookup
import Rebac.Proofs.Store.Registry

namespace Rebac.Service

open Rebac.Message Rebac.Store

/-!
# Lists read page by page

Relationships and tenants are read page by page, from the store or through the services.

* `handle_read` — what a reading of relationships answers.
* `limit_le_of_smallPage` — a page that keeps the rule for page sizes is small.
* `page_le` — a call that answers a page answers a small one; `relationships_page_le`,
  `tenants_page_le` and `lookup_page_le` are the calls that do.
* `pages_complete` — **paging loses and repeats nothing**: a walk over the relationships that a
  filter selects, or over the tenants, cuts them into pages.
-/

/-! ### Pages of the services -/

/-- A page of a size that keeps the rule for page sizes has at most a hundred items. -/
theorem limit_le_of_smallPage {field token : String} {size : UInt32}
    (h : (Rule.smallPage field size).holds = true) : (Page.mk size token).limit ≤ 100 := by
  have hsize : size.toNat ≤ 100 := of_decide_eq_true h
  unfold Page.limit
  split
  · exact Nat.le_refl 100
  · exact hsize

/-- What a reading of relationships finds. -/
def matching (s : Store) (m : RelationshipReadRequest) : List Tuple :=
  (s.tuples m.tenantId).filter (selects (m.filter.getD {}))

/-- A reading answers what stands at the position of its token. -/
theorem handle_read {e : Evaluator} {c : Rpc.Context} {s : Store} {m : RelationshipReadRequest}
    {start : Nat} (h : offset? m.continuousToken = some start) :
    let limit := (Page.mk m.pageSize m.continuousToken).limit
    (Rpc.readRelationships.handle e c s m).1
      = .answer ⟨((matching s m).drop start).take limit,
          if start + limit < (matching s m).length then toString (start + limit) else ""⟩ := by
  intro limit
  show Outcome.ofExcept (((Page.mk m.pageSize m.continuousToken).cut (matching s m)).map _) = _
  rw [cut_eq _ h]
  rfl

section Calls

variable {b : Backend} {e : Evaluator} {around : Surroundings} {metadata : Metadata}

/-- A call whose message keeps the rule for page sizes, and whose handler makes its answer of a page,
    answers a page of at most a hundred items. -/
theorem page_le {α : Type} {r : Rpc} {m : r.Request} {size : UInt32} {token : String}
    {items : List α} {f : List α × String → r.Response} {answer : r.Response}
    (rule : Rule.smallPage "page_size" size ∈ Rule.Ruled.rules m)
    (handled : (r.handle e around.context b.store m).1
      = .ofExcept (((Page.mk size token).cut items).map f))
    (h : (b.call e around metadata r m).1 = .answer answer) :
    ∃ found next, answer = f (found, next) ∧ found.length ≤ 100 := by
  obtain ⟨hpasses, hanswer⟩ := (answer_call_iff ..).mp h
  have hsmall := Rule.violation?_eq_none_iff.mp (valid_of_passes hpasses) _ rule
  rw [handled] at hanswer
  cases hcut : (Page.mk size token).cut items with
  | error failure =>
    rw [hcut] at hanswer
    cases hanswer
  | ok page =>
    rw [hcut] at hanswer
    cases hanswer
    exact ⟨page.1, page.2, rfl, Nat.le_trans (length_cut_le hcut) (limit_le_of_smallPage hsmall)⟩

/-- A page of relationships has at most a hundred. -/
theorem relationships_page_le {m : RelationshipReadRequest} {page : RelationshipReadResponse}
    (h : (b.call e around metadata .readRelationships m).1 = .answer page) :
    page.tuples.length ≤ 100 := by
  have hrule : Rule.smallPage "page_size" m.pageSize ∈ Rule.Ruled.rules m := by
    simp [Rule.Ruled.rules]
  obtain ⟨found, next, rfl, hfound⟩ := page_le hrule rfl h
  exact hfound

/-- A page of tenants has at most a hundred. -/
theorem tenants_page_le {m : TenantListRequest} {page : TenantListResponse}
    (h : (b.call e around metadata .listTenants m).1 = .answer page) :
    page.tenants.length ≤ 100 := by
  have hrule : Rule.smallPage "page_size" m.pageSize ∈ Rule.Ruled.rules m := by
    simp [Rule.Ruled.rules]
  obtain ⟨found, next, rfl, hfound⟩ := page_le hrule rfl h
  exact hfound

/-- A look-up that is answered from the stored relationships names no more entities than it has
    read. -/
theorem lookup_page_le {m : LookupRequest} {page : LookupResponse}
    (h : (b.call .direct around metadata .lookupEntity m).1 = .answer page) :
    page.entityIds.length ≤ 100 := by
  have hrule : Rule.smallPage "page_size" m.pageSize ∈ Rule.Ruled.rules m := by
    simp [Rule.Ruled.rules]
  cases hsubject : m.subject with
  | none =>
    have hanswer := ((answer_call_iff ..).mp h).2
    have hfails : b.store.lookup m = .error (.missing "subject") := by
      unfold Store.lookup
      rw [hsubject]
    have hhandled : Outcome.ofExcept (b.store.lookup m) = .answer page := hanswer
    rw [hfails] at hhandled
    cases hhandled
  | some u =>
    have hhandled : (Rpc.lookupEntity.handle .direct around.context b.store m).1
        = .ofExcept (((Page.mk m.pageSize m.continuousToken).cut (b.store.selected m u)).map
            fun found => ⟨entityIds found.1, found.2⟩) :=
      congrArg Outcome.ofExcept (lookup_eq b.store hsubject)
    obtain ⟨found, next, rfl, hfound⟩ := page_le hrule hhandled h
    exact Nat.le_trans (length_entityIds_le found) hfound

end Calls

/-! ### Walks -/

/-- **Paging loses and repeats nothing.** After any run, the walk over the relationships that a filter
    selects starts from the empty token and ends, and it is the only one. It cuts them into full
    pages, except for the last; together the pages are the relationships in stored order, each once.
    The same holds of the tenants, which come in ascending order of their ids. A page of the services
    has at most a hundred items, whoever asks for it and in whatever state.

    A list in memory has positions of 64 bits, which is assumed of the relationships that are found;
    there are never as many tenants. -/
theorem pages_complete (now : Int64) (ops : List Operation) (size : UInt32) :
    let s := (initial now).after ops
    let limit := if size = 0 then 100 else size.toNat
    (∀ tenant filter,
        let found := (s.tuples tenant).filter (selects filter)
        found.length ≤ 2 ^ 64 →
          found.Nodup ∧ ∃ pages, Paged limit found pages
            ∧ ∀ pages', Walk (fun token => s.read tenant filter ⟨size, token⟩) "" pages'
                ↔ pages' = pages)
    ∧ (Ascending s.registry.tenants ∧ ∃ pages, Paged limit s.registry.tenants pages
        ∧ ∀ pages', Walk (fun token => s.listTenants ⟨size, token⟩) "" pages' ↔ pages' = pages)
    ∧ ∀ (b : Backend) (e : Evaluator) (around : Surroundings) (metadata : Metadata),
        (∀ m page, (b.call e around metadata .readRelationships m).1 = .answer page →
          page.tuples.length ≤ 100)
        ∧ (∀ m page, (b.call e around metadata .listTenants m).1 = .answer page →
          page.tenants.length ≤ 100)
        ∧ (∀ m page, (b.call .direct around metadata .lookupEntity m).1 = .answer page →
          page.entityIds.length ≤ 100) := by
  intro s limit
  refine ⟨?_, ⟨s.registry.ascending, ?_⟩, ?_⟩
  · intro tenant filter found fits
    have hnodup : found.Nodup := (nodup_after now ops tenant).filter _
    exact ⟨hnodup, walk_from_start fits size⟩
  · have hfew : s.registry.tenants.length ≤ maxTenants := size_after_le now ops
    exact walk_from_start (Nat.le_trans hfew (by decide)) size
  · intro b e around metadata
    exact ⟨fun _ _ => relationships_page_le, fun _ _ => tenants_page_le, fun _ _ => lookup_page_le⟩

/-- Three documents that the members of the group may view. -/
def shelf : List Operation :=
  [.write "t1" [asked ⟨"document", "1"⟩ "view" members, asked ⟨"document", "2"⟩ "view" members,
    asked ⟨"document", "3"⟩ "view" members]]

/-- All documents. -/
def documents : TupleFilter where
  entity := some { type := "document" }

/-- Services with the three documents behind a gate for ten calls. -/
def library : Backend :=
  ⟨(initial 0).after shelf, ⟨.ofRate 10, none⟩, false⟩

/-- The three documents come in two pages of two, and each kind of page is answered. -/
theorem pages_complete_shelf :
    let s := (initial 0).after shelf
    let around : Surroundings := ⟨⟨0, .unreachable⟩, ⟨0, ""⟩⟩
    (∃ pages, Walk (fun token => s.read "t1" documents ⟨2, token⟩) "" pages
      ∧ pages.length = 2 ∧ pages.flatten = s.tuples "t1")
    ∧ (∃ page, (library.call .direct around [] .readRelationships
          ⟨"t1", some {}, some documents, 2, ""⟩).1 = .answer page ∧ page.tuples.length ≤ 100)
    ∧ (∃ page, (library.call .direct around [] .listTenants {}).1 = .answer page
      ∧ page.tenants.length ≤ 100)
    ∧ ∃ page, (library.call .direct around [] .lookupEntity
          { membersLookup with metadata := some { depth := 20 } }).1 = .answer page
      ∧ page.entityIds.length ≤ 100 := by
  intro s around
  obtain ⟨hread, -, hcalls⟩ := pages_complete 0 shelf 2
  obtain ⟨hrelationships, htenants, hlookup⟩ := hcalls library .direct around []
  obtain ⟨-, pages, hpaged, hwalk⟩ := hread "t1" documents (by decide)
  refine ⟨⟨pages, (hwalk pages).mpr rfl, hpaged.length, hpaged.flatten⟩, ?_, ?_, ?_⟩
  · exact ⟨_, rfl, hrelationships ⟨"t1", some {}, some documents, 2, ""⟩ _ rfl⟩
  · exact ⟨_, rfl, htenants {} _ rfl⟩
  · exact ⟨_, rfl, hlookup { membersLookup with metadata := some { depth := 20 } } _ rfl⟩

end Rebac.Service
