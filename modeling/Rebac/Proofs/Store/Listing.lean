import Rebac.Proofs.Store.Registry
import Rebac.Proofs.Store.WalkAmid

namespace Rebac.Store

open Rebac.Message

/-!
# Listing tenants while they come and go

Tenants are listed in the order of their ids, and a token is a position in that order. Who is
registered or removed before the position of the next page moves all that stands behind.

* `rank` — the position of an id: how many registered tenants have smaller ids.
* `getElem_rank`, `returned_page` — a tenant is on a page just if its rank is among the positions of the
  page.
* `rank_perform` — **the step law of ranks**: registrations and removals of smaller ids move an id by
  one position, and nothing else does; `exists_movesForward` and `exists_movesBack` say so of runs.
* `Gap` — what happens between two pages; `Gap.behind_next` tells on which side of the next page's
  position an id is, before and after.
* `CutAmid.returned` — **the balance of a listing**: returned once more for each time that an id is
  pushed forward over the position, once less for each time that it is drawn back.
* `listing_amid` — how often a walk returns an id, and what moves it.
-/

variable {s : Store} {id : String} {t : Tenant} {ts : List Tenant}

/-! ### Positions of tenants -/

/-- The position of an id among the registered tenants, whether it is registered or not. -/
def rank (s : Store) (id : String) : Nat :=
  s.registry.tenants.countP fun t => t.id < id

/-- How many of some tenants have the id. -/
def returned (id : String) (ts : List Tenant) : Nat :=
  ts.countP fun t => t.id = id

/-- In order, as many come before a tenant as have smaller ids. -/
theorem countP_lt_getElem (h : Ascending ts) {i : Nat} (hi : i < ts.length) :
    ts.countP (fun u => u.id < ts[i].id) = i := by
  induction ts generalizing i with
  | nil => exact absurd hi (Nat.not_lt_zero i)
  | cons u rest ih =>
    obtain ⟨hfirst, hrest⟩ := List.pairwise_cons.mp h
    cases i with
    | zero =>
      rw [List.countP_eq_zero]
      intro v hv
      rcases List.mem_cons.mp hv with rfl | hv
      · simp
      · simpa using String.lt_asymm (hfirst v hv)
    | succ i =>
      have hi : i < rest.length := Nat.lt_of_succ_lt_succ hi
      have hsmaller : u.id < rest[i].id := hfirst _ (List.getElem_mem hi)
      rw [List.getElem_cons_succ, List.countP_cons_of_pos (by simpa using hsmaller), ih hrest hi]

/-- No two tenants in order have the same id. -/
theorem returned_le_one (h : Ascending ts) : returned id ts ≤ 1 := by
  induction ts with
  | nil => exact Nat.zero_le 1
  | cons u rest ih =>
    obtain ⟨hfirst, hrest⟩ := List.pairwise_cons.mp h
    by_cases hu : u.id = id
    · have hnone : returned id rest = 0 := by
        rw [returned, List.countP_eq_zero]
        intro v hv hid
        have hlater : u.id < v.id := hfirst v hv
        rw [hu, of_decide_eq_true hid] at hlater
        exact String.lt_irrefl id hlater
      rw [returned, List.countP_cons_of_pos (by simpa using hu)]
      exact Nat.succ_le_succ (Nat.le_of_eq hnone)
    · rw [returned, List.countP_cons_of_neg (by simpa using hu)]
      exact ih hrest

/-- A page returns an id exactly if it shows a tenant of that id. -/
theorem returned_pos_iff : 0 < returned id ts ↔ ∃ t ∈ ts, t.id = id := by
  simp [returned, List.countP_pos_iff]

/-- A registered id is that of one tenant. -/
theorem returned_registered (h : (s.registry.find? id).isSome) :
    returned id s.registry.tenants = 1 := by
  obtain ⟨t, ht⟩ := Option.isSome_iff_exists.mp h
  have hid : t.id = id := by simpa using List.find?_some ht
  have hpos : 0 < returned id s.registry.tenants :=
    returned_pos_iff.mpr ⟨t, List.mem_of_find?_eq_some ht, hid⟩
  exact Nat.le_antisymm (returned_le_one s.registry.ascending) hpos

/-- The tenant of a registered id stands at its rank. -/
theorem getElem_rank (h : (s.registry.find? id).isSome) :
    ∃ hrank : s.rank id < s.registry.tenants.length, (s.registry.tenants[s.rank id]).id = id := by
  obtain ⟨t, ht⟩ := Option.isSome_iff_exists.mp h
  obtain ⟨i, hi, rfl⟩ := List.mem_iff_getElem.mp (List.mem_of_find?_eq_some ht)
  have hid : s.registry.tenants[i].id = id := by simpa using List.find?_some ht
  have hrank : s.rank id = i := by
    rw [← hid]
    exact countP_lt_getElem s.registry.ascending hi
  exact ⟨hrank ▸ hi, by simpa only [hrank] using hid⟩

/-- A tenant is among those from a position on, up to another, just if it is registered and its rank
    lies between them. -/
theorem returned_page (s : Store) (id : String) (start limit : Nat) :
    returned id ((s.registry.tenants.drop start).take limit)
      = if (s.registry.find? id).isSome ∧ start ≤ s.rank id ∧ s.rank id < start + limit then 1
        else 0 := by
  -- Ids ascend, so that none stands twice on a page; it remains to say when one stands there.
  have hle : returned id ((s.registry.tenants.drop start).take limit) ≤ 1 :=
    returned_le_one (s.registry.ascending.sublist
      ((List.take_sublist limit _).trans (List.drop_sublist start _)))
  have hpos : 0 < returned id ((s.registry.tenants.drop start).take limit)
      ↔ (s.registry.find? id).isSome ∧ start ≤ s.rank id ∧ s.rank id < start + limit := by
    rw [returned_pos_iff]
    constructor
    · rintro ⟨t, ht, rfl⟩
      obtain ⟨i, hi, rfl⟩ := List.mem_iff_getElem.mp ht
      rw [List.getElem_take, List.getElem_drop]
      rw [List.length_take, List.length_drop] at hi
      have hrank : s.rank s.registry.tenants[start + i].id = start + i :=
        countP_lt_getElem s.registry.ascending (by omega)
      rw [hrank, find?_of_mem (List.getElem_mem _)]
      exact ⟨rfl, by omega, by omega⟩
    · rintro ⟨hregistered, hstart, hstop⟩
      obtain ⟨hrank, hid⟩ := getElem_rank hregistered
      refine ⟨_, List.mem_iff_getElem.mpr ⟨s.rank id - start, ?_, ?_⟩, hid⟩
      · rw [List.length_take, List.length_drop]
        omega
      · rw [List.getElem_take, List.getElem_drop]
        congr 1
        omega
  split
  · next h => exact Nat.le_antisymm hle (hpos.mpr h)
  · next h => exact Nat.eq_zero_of_not_pos fun hp => h (hpos.mp hp)

/-- Whether an id comes before a position, as a number. -/
def behind (s : Store) (id : String) (position : Nat) : Nat :=
  if s.rank id < position then 1 else 0

/-- An id that a page returns comes before the next page, and did not come before the page itself. -/
theorem returned_page_le (s : Store) (id : String) (start limit : Nat) :
    returned id ((s.registry.tenants.drop start).take limit) + s.behind id start
      ≤ s.behind id (start + limit) := by
  rw [returned_page]
  unfold behind
  split_ifs <;> omega

/-- A page returns the registered id that comes before the next page and not before the page itself. -/
theorem returned_page_eq (h : (s.registry.find? id).isSome) (start limit : Nat) :
    returned id ((s.registry.tenants.drop start).take limit) + s.behind id start
      = s.behind id (start + limit) := by
  rw [returned_page]
  unfold behind
  simp only [h, true_and]
  split_ifs <;> omega

/-! ### What moves an id -/

/-- Whether an operation registers a tenant of a smaller id. -/
def Operation.movesForward (s : Store) (id : String) : Operation → Bool
  | createTenant _ id' _ =>
    id' < id && (s.registry.find? id').isNone && s.registry.size < maxTenants
  | _ => false

/-- Whether an operation removes a tenant of a smaller id. -/
def Operation.movesBack (s : Store) (id : String) : Operation → Bool
  | deleteTenant id' => id' < id && (s.registry.find? id').isSome
  | _ => false

/-- A new tenant counts once, wherever it is put. -/
theorem countP_insertTenant (p : Tenant → Bool) (t : Tenant) (ts : List Tenant) :
    (insertTenant t ts).countP p = ts.countP p + if p t then 1 else 0 := by
  induction ts with
  | nil => simp [insertTenant, List.countP_cons]
  | cons u rest ih =>
    unfold insertTenant
    split
    · rw [List.countP_cons]
    · rw [List.countP_cons, List.countP_cons, ih]
      omega

/-- A registration moves the larger ids one position forward. -/
theorem rank_createTenant (s : Store) (now : Int64) (id' name id : String) :
    (s.perform (.createTenant now id' name)).2.rank id
      = s.rank id + ((Operation.createTenant now id' name).movesForward s id).toNat := by
  show (s.settle (s.createTenant now id' name)).2.rank id = _
  rw [settle_createTenant_eq]
  unfold Operation.movesForward
  split
  · next htaken => simp [Option.isNone_iff_eq_none, Option.isSome_iff_ne_none.mp htaken]
  · next hfree =>
    have hfree : s.registry.find? id' = none := by simpa using hfree
    split
    · next hfull => simp [Nat.not_lt.mpr hfull]
    · next hroom =>
      show (s.registry.insert ⟨id', name, now⟩).tenants.countP _ = _
      rw [tenants_insert hfree, countP_insertTenant]
      by_cases h : id' < id <;> simp [h, hfree, Nat.lt_of_not_le hroom, rank]

/-- A removal moves the larger ids one position back. -/
theorem rank_deleteTenant (s : Store) (id' id : String) :
    (s.perform (.deleteTenant id')).2.rank id + ((Operation.deleteTenant id').movesBack s id).toNat
      = s.rank id := by
  show (s.settle (s.deleteTenant id')).2.registry.tenants.countP _ + _ = _
  rw [registry_deleteTenant]
  unfold Operation.movesBack
  split
  · next hregistered =>
    -- What is removed is the one tenant of that id, and it counts if its id is smaller.
    have hgone : (s.registry.tenants.filter fun t => !decide (t.id ≠ id')).countP
        (fun t => t.id < id) = (decide (id' < id)).toNat := by
      rw [List.countP_filter]
      by_cases h : id' < id
      · rw [decide_eq_true h, Bool.toNat_true, ← returned_registered hregistered, returned]
        exact List.countP_congr fun t _ => by
          by_cases hid : t.id = id' <;> simp [hid, h]
      · rw [decide_eq_false h, Bool.toNat_false, List.countP_eq_zero]
        intro t _ hcounted
        simp only [ne_eq, decide_not, Bool.not_not, Bool.and_eq_true, decide_eq_true_eq] at hcounted
        exact h (hcounted.2 ▸ hcounted.1)
    show _ + (decide (id' < id) && (s.registry.find? id').isSome).toNat = _
    rw [hregistered, Bool.and_true, ← hgone]
    exact (List.countP_eq_countP_filter_add _ _ _).symm
  · next hfree => simp [hfree, rank]

/-- **The step law of ranks.** An id moves one position forward with a registration of a smaller id,
    and one back with a removal of a smaller id. -/
theorem rank_perform (s : Store) (op : Operation) (id : String) :
    (s.perform op).2.rank id + (op.movesBack s id).toNat
      = s.rank id + (op.movesForward s id).toNat := by
  cases op with
  | createTenant now id' name => exact rank_createTenant s now id' name id
  | deleteTenant id' => exact rank_deleteTenant s id' id
  | _ => rfl

/-- An id has only moved forward over a run if a smaller id was registered. -/
theorem exists_movesForward {ops : List Operation} (h : s.rank id < (s.after ops).rank id) :
    ∃ e ∈ s.history ops, e.2.movesForward e.1 id = true := by
  induction ops generalizing s with
  | nil => exact absurd h (Nat.lt_irrefl _)
  | cons op rest ih =>
    cases hmoves : op.movesForward s id with
    | true => exact ⟨(s, op), List.mem_cons_self, hmoves⟩
    | false =>
      have hstep := rank_perform s op id
      rw [hmoves] at hstep
      have hle : (s.perform op).2.rank id ≤ s.rank id := Nat.le.intro hstep
      obtain ⟨e, he, hforward⟩ := ih (Nat.lt_of_le_of_lt hle h)
      exact ⟨e, List.mem_cons_of_mem _ he, hforward⟩

/-- An id has only moved back over a run if a smaller id was removed. -/
theorem exists_movesBack {ops : List Operation} (h : (s.after ops).rank id < s.rank id) :
    ∃ e ∈ s.history ops, e.2.movesBack e.1 id = true := by
  induction ops generalizing s with
  | nil => exact absurd h (Nat.lt_irrefl _)
  | cons op rest ih =>
    cases hmoves : op.movesBack s id with
    | true => exact ⟨(s, op), List.mem_cons_self, hmoves⟩
    | false =>
      have hstep := rank_perform s op id
      rw [hmoves] at hstep
      have hle : s.rank id ≤ (s.perform op).2.rank id := Nat.le.intro hstep.symm
      obtain ⟨e, he, hback⟩ := ih (Nat.lt_of_lt_of_le h hle)
      exact ⟨e, List.mem_cons_of_mem _ he, hback⟩

/-! ### The balance of a listing -/

/-- What happens between two pages: the store when the first was read, the operations after it, and the
    position of the page that is read then. -/
structure Gap where
  store : Store
  operations : List Operation
  position : Nat

namespace Gap

/-- The store when the next page is read. -/
def next (g : Gap) : Store :=
  g.store.after g.operations

/-- Whether an id is pushed forward over the position of the next page, so that it comes after it. -/
def pushes (id : String) (g : Gap) : Bool :=
  g.store.rank id < g.position && g.position ≤ g.next.rank id

/-- Whether an id is drawn back over the position of the next page, so that it comes before it. -/
def draws (id : String) (g : Gap) : Bool :=
  g.position ≤ g.store.rank id && g.next.rank id < g.position

/-- The gaps of a walk that starts at a position. -/
def ofWalk (limit : Nat) : Store → Nat → List (List Operation) → List Gap
  | _, _, [] => []
  | s, start, operations :: rest =>
    ⟨s, operations, start + limit⟩ :: ofWalk limit (s.after operations) (start + limit) rest

end Gap

/-- An id changes sides between two pages just if it is pushed forward or drawn back. -/
theorem Gap.behind_next (g : Gap) (id : String) :
    g.store.behind id g.position + (if g.draws id then 1 else 0)
      = g.next.behind id g.position + if g.pushes id then 1 else 0 := by
  unfold behind draws pushes
  simp only [Bool.and_eq_true, decide_eq_true_eq]
  split_ifs <;> omega

/-- **The balance of a listing.** Each time that an id is pushed forward over the position of the next
    page it is returned once more, and each time that it is drawn back once less. It is returned at
    most that often, and just that often if it is registered whenever a page is read. -/
theorem CutAmid.returned {limit start : Nat} {ops : List (List Operation)}
    {pages : List (List Tenant)} (h : CutAmid limit (·.registry.tenants) s start ops pages)
    (id : String) :
    let gaps := Gap.ofWalk limit s start ops
    let settled := Store.returned id pages.flatten + gaps.countP (Gap.draws id) + s.behind id start
    let owed := 1 + gaps.countP (Gap.pushes id)
    settled ≤ owed
      ∧ ((∀ s' ∈ s :: gaps.map Gap.next, (s'.registry.find? id).isSome) → settled = owed) := by
  -- By induction over the walk. With each page the position moves on, and the balance is taken over the
  -- gap behind it.
  induction h with
  | @last s start ends =>
    have hpage : (s.registry.tenants.drop start).take limit = s.registry.tenants.drop start :=
      List.take_of_length_le (by rw [List.length_drop]; omega)
    have hle := returned_page_le s id start limit
    rw [hpage] at hle
    have hbehind : s.behind id (start + limit) ≤ 1 := by
      unfold behind
      split_ifs <;> omega
    simp only [Gap.ofWalk, List.flatten_singleton, List.countP_nil, List.map_nil,
      List.forall_mem_singleton]
    refine ⟨by omega, ?_⟩
    intro hregistered
    obtain ⟨hrank, -⟩ := getElem_rank hregistered
    have heq := returned_page_eq hregistered start limit
    -- The last page reaches beyond every tenant that is registered.
    have hpassed : s.behind id (start + limit) = 1 := if_pos (by omega)
    rw [hpage, hpassed] at heq
    omega
  | @more s start ops rest pages goesOn walk ih =>
    have hpage := returned_page_le s id start limit
    -- The page is read in the store before the gap, the rest of the walk starts in the one behind it.
    have hgap : s.behind id (start + limit) + _ = (s.after ops).behind id (start + limit) + _ :=
      Gap.behind_next ⟨s, ops, start + limit⟩ id
    have hsplit : Store.returned id ((s.registry.tenants.drop start).take limit :: pages).flatten
        = Store.returned id ((s.registry.tenants.drop start).take limit)
          + Store.returned id pages.flatten := by
      rw [List.flatten_cons, Store.returned, List.countP_append]
      rfl
    obtain ⟨hle, heq⟩ := ih
    simp only [Gap.ofWalk, List.countP_cons, List.map_cons, List.forall_mem_cons, hsplit]
    refine ⟨by omega, ?_⟩
    rintro ⟨hregistered, hnext, hrest⟩
    have hpage := returned_page_eq hregistered start limit
    have hsettled := heq (List.forall_mem_cons.mpr ⟨hnext, hrest⟩)
    omega

/-- **How often a listing returns a tenant.** Whatever happens between the pages of a walk that ends, a
    tenant that is registered whenever a page is read is returned once, once more for each time that
    it is pushed forward over the position of the next page, and once less for each time that it is
    drawn back over it. No id is returned more often, so none twice that is not pushed forward. Only
    the registration of a smaller id pushes forward, and only the removal of a smaller id draws
    back. -/
theorem listing_amid (s : Store) (size : UInt32) {ops : List (List Operation)}
    {pages : List (List Tenant)}
    (walk : WalkAmid (fun s token => s.listTenants ⟨size, token⟩) s "" ops pages) (id : String) :
    let gaps := Gap.ofWalk (if size = 0 then 100 else size.toNat) s 0 ops
    let settled := returned id pages.flatten + gaps.countP (Gap.draws id)
    let owed := 1 + gaps.countP (Gap.pushes id)
    settled ≤ owed
      ∧ ((∀ s' ∈ s :: gaps.map Gap.next, (s'.registry.find? id).isSome) → settled = owed)
      ∧ ∀ g ∈ gaps,
          (g.pushes id = true →
            ∃ e ∈ g.store.history g.operations, e.2.movesForward e.1 id = true)
          ∧ (g.draws id = true →
            ∃ e ∈ g.store.history g.operations, e.2.movesBack e.1 id = true) := by
  intro gaps settled owed
  have hcut : CutAmid (Page.mk size "").limit (·.registry.tenants) s 0 ops pages :=
    walk.cut offset?_empty
  have hbalance := hcut.returned id
  have hstart : s.behind id 0 = 0 := if_neg (Nat.not_lt_zero _)
  rw [hstart] at hbalance
  refine ⟨hbalance.1, hbalance.2, ?_⟩
  intro g _
  simp only [Gap.pushes, Gap.draws, Bool.and_eq_true, decide_eq_true_eq]
  constructor
  · rintro ⟨hbefore, hafter⟩
    exact exists_movesForward (Nat.lt_of_lt_of_le hbefore hafter)
  · rintro ⟨hbefore, hafter⟩
    exact exists_movesBack (Nat.lt_of_lt_of_le hafter hbefore)

/-- A store with the tenant that every store starts with and another one. -/
def withTenant (id : String) : Store :=
  (initial 0).after [.createTenant 0 id "new"]

/-- The tenant that every store starts with. -/
def exampleTenant : Tenant :=
  ⟨"t1", "example tenant", 0⟩

/-- While tenants are listed one by one, one is registered before the first. -/
def earlierOne : List (List Operation) :=
  [[.createTenant 0 "a" "new"], []]

/-- The first one is then returned again. -/
theorem walk_earlierOne :
    WalkAmid (fun s token => s.listTenants ⟨1, token⟩) (withTenant "z") "" earlierOne
      [[exampleTenant], [exampleTenant], [⟨"z", "new", 0⟩]] := by
  have hfirst : (withTenant "z").listTenants ⟨1, ""⟩ = .ok ([exampleTenant], "1") := by rfl
  have hsecond : ((withTenant "z").after [.createTenant 0 "a" "new"]).listTenants ⟨1, "1"⟩
      = .ok ([exampleTenant], "2") := by rfl
  have hthird : ((withTenant "z").after [.createTenant 0 "a" "new"]).listTenants ⟨1, "2"⟩
      = .ok ([⟨"z", "new", 0⟩], "") := by rfl
  exact .more hfirst (by decide) (.more hsecond (by decide) (.last hthird))

/-- A tenant that is pushed forward once is returned twice. -/
theorem listing_amid_twice :
    returned "t1" [exampleTenant, exampleTenant, ⟨"z", "new", 0⟩]
      = 1 + (Gap.ofWalk 1 (withTenant "z") 0 earlierOne).countP (Gap.pushes "t1") := by
  obtain ⟨-, hbalance, -⟩ := listing_amid (withTenant "z") 1 walk_earlierOne "t1"
  have hregistered : ∀ s' ∈ withTenant "z"
      :: (Gap.ofWalk 1 (withTenant "z") 0 earlierOne).map Gap.next,
      (s'.registry.find? "t1").isSome := by decide
  have hnone : (Gap.ofWalk 1 (withTenant "z") 0 earlierOne).countP (Gap.draws "t1") = 0 := by decide
  have hsettled : returned "t1" [exampleTenant, exampleTenant, ⟨"z", "new", 0⟩]
      + (Gap.ofWalk 1 (withTenant "z") 0 earlierOne).countP (Gap.draws "t1")
      = 1 + (Gap.ofWalk 1 (withTenant "z") 0 earlierOne).countP (Gap.pushes "t1") :=
    hbalance hregistered
  rwa [hnone] at hsettled

/-- **A listing may miss a tenant that is registered all the time, and may return one twice.** While
    tenants are listed one by one, the first one is removed, and the second one is never returned; or
    one is registered before the first, which is returned again. -/
theorem standing_tenant_missed :
    (WalkAmid (fun s token => s.listTenants ⟨1, token⟩) (withTenant "a") "" [[.deleteTenant "a"]]
          [[⟨"a", "new", 0⟩], []]
        ∧ (∀ e ∈ (withTenant "a").history [.deleteTenant "a"],
            (e.1.registry.find? "t1").isSome)
        ∧ (((withTenant "a").after [.deleteTenant "a"]).registry.find? "t1").isSome
        ∧ returned "t1" [⟨"a", "new", 0⟩] = 0)
    ∧ WalkAmid (fun s token => s.listTenants ⟨1, token⟩) (withTenant "z") "" earlierOne
          [[exampleTenant], [exampleTenant], [⟨"z", "new", 0⟩]]
        ∧ returned "t1" [exampleTenant, exampleTenant, ⟨"z", "new", 0⟩] = 2 := by
  have hfirst : (withTenant "a").listTenants ⟨1, ""⟩ = .ok ([⟨"a", "new", 0⟩], "1") := by rfl
  have hsecond : ((withTenant "a").after [.deleteTenant "a"]).listTenants ⟨1, "1"⟩
      = .ok ([], "") := by rfl
  refine ⟨⟨.more hfirst (by decide) (.last hsecond), ?_, by decide, by decide⟩, walk_earlierOne,
    by decide⟩
  simp only [history, List.forall_mem_singleton]
  decide

end Rebac.Store
