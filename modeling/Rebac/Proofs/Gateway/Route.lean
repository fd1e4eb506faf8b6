import Rebac.Gateway.Route

namespace Rebac.Gateway

open Rebac.Service

/-!
# Where requests go

The paths that lead to a call, told one by one, against the patterns that are tried in order.

* `Addresses` — the method and the path of a call, with the segment that stands for its tenant.
* `dispatch_eq_call_iff` — **these requests, and no others, are dispatched to a call**.
-/

/-- The words after the tenant in the paths of the calls about one tenant. -/
def tenantPaths : List (Rpc × List String) := [
  (.check, ["permissions", "check"]),
  (.lookupEntity, ["permissions", "lookup-entity"]),
  (.writeSchema, ["schemas", "write"]),
  (.readSchema, ["schemas", "read"]),
  (.writeData, ["data", "write"]),
  (.readRelationships, ["data", "relationships", "read"]),
  (.deleteData, ["data", "delete"])]

/-- The methods and paths of the calls, with the segment that stands for the tenant. The words that
    create and list tenants cannot stand for one that is deleted. -/
inductive Addresses : (method : String) → (path : List String) → Rpc → Option String → Prop
  | createTenant : Addresses "POST" ["v1", "tenants", "create"] .createTenant none
  | listTenants : Addresses "POST" ["v1", "tenants", "list"] .listTenants none
  | deleteTenant {segment : String} (nonempty : segment ≠ "") (create : segment ≠ "create")
      (list : segment ≠ "list") :
      Addresses "DELETE" ["v1", "tenants", segment] .deleteTenant (some segment)
  | tenantCall {segment : String} {r : Rpc} {words : List String} (listed : (r, words) ∈ tenantPaths)
      (nonempty : segment ≠ "") :
      Addresses "POST" ("v1" :: "tenants" :: segment :: words) r (some segment)

/-! ### Patterns -/

/-- A pattern of words has one path. -/
theorem fill?_words_iff {words path segments : List String} :
    fill? (words.map .word) path = some segments ↔ path = words ∧ segments = [] := by
  induction words generalizing path with
  | nil => cases path <;> simp [fill?, eq_comm]
  | cons w words ih =>
    cases path with
    | nil => simp [fill?]
    | cons s path =>
      by_cases hs : s = w
      · subst hs
        simp [fill?, ih]
      · simp [fill?, hs, Ne.symm hs]

/-- The paths of a pattern with the tenant before the last words. -/
theorem fill?_tenant {words path segments : List String}
    (h : fill? (.word "v1" :: .word "tenants" :: .tenant :: words.map .word) path = some segments) :
    ∃ segment, segment ≠ "" ∧ path = "v1" :: "tenants" :: segment :: words ∧ segments = [segment] := by
  match path, h with
  | v :: t :: segment :: rest, h =>
    simp only [fill?, Option.ite_none_right_eq_some, Option.ite_none_left_eq_some,
      Option.map_eq_some_iff, String.isEmpty_iff, fill?_words_iff] at h
    obtain ⟨rfl, rfl, hne, _, ⟨rfl, rfl⟩, rfl⟩ := h
    exact ⟨segment, hne, rfl, rfl⟩
  | [], h | [_], h | [_, _], h => simp [fill?] at h

/-- The patterns in the order in which they are tried. -/
theorem routes_eq :
    routes = [
        ⟨.post, ["v1", "tenants", "create"].map .word, .call .createTenant⟩,
        ⟨.post, ["v1", "tenants", "list"].map .word, .call .listTenants⟩,
        ⟨.delete, .word "v1" :: .word "tenants" :: .tenant :: [].map .word, .call .deleteTenant⟩]
      ++ tenantPaths.map (fun p => tenantRoute p.2 p.1)
      ++ [⟨.get, [.word "healthz"], .health⟩] :=
  rfl

/-! ### Dispatch -/

/-- A request that is dispatched has the pattern of one of the routes. -/
theorem exists_route {method : String} {path : List String} {target : Target}
    {segment : Option String} (h : dispatch method path = .found target segment) :
    ∃ route ∈ routes, ∃ segments, fill? route.pattern path = some segments
      ∧ segments.head? = segment ∧ route.target = target ∧ method ∈ route.method.names := by
  unfold dispatch at h
  split at h
  · cases h
  · next route tenant hroute =>
    split at h
    · next hmethod =>
      cases h
      obtain ⟨route', hmem, hfill⟩ := List.exists_of_findSome?_eq_some hroute
      obtain ⟨segments, hsegments, heq⟩ := Option.map_eq_some_iff.mp hfill
      cases heq
      exact ⟨route, hmem, segments, hsegments, rfl, rfl, List.contains_iff_mem.mp hmethod⟩
    · cases h

/-- A request that goes to a call addresses it. -/
theorem addresses_of_dispatch {method : String} {path : List String} {r : Rpc}
    {segment : Option String} (h : dispatch method path = .found (.call r) segment) :
    Addresses method path r segment := by
  obtain ⟨route, hmem, segments, hfill, rfl, htarget, hmethod⟩ := exists_route h
  rw [routes_eq, List.mem_append, List.mem_append] at hmem
  rcases hmem with (hmem | hmem) | hmem
  · simp only [List.mem_cons, List.not_mem_nil, or_false] at hmem
    rcases hmem with rfl | rfl | rfl
    · obtain ⟨rfl, rfl⟩ := fill?_words_iff.mp hfill
      cases htarget
      obtain rfl := List.mem_singleton.mp hmethod
      exact .createTenant
    · obtain ⟨rfl, rfl⟩ := fill?_words_iff.mp hfill
      cases htarget
      obtain rfl := List.mem_singleton.mp hmethod
      exact .listTenants
    · obtain ⟨s, hne, rfl, rfl⟩ := fill?_tenant hfill
      cases htarget
      obtain rfl := List.mem_singleton.mp hmethod
      -- The paths of words are tried first, and they have another method.
      refine .deleteTenant hne ?_ ?_ <;> rintro rfl <;> cases h
  · obtain ⟨⟨r', words⟩, hlisted, rfl⟩ := List.mem_map.mp hmem
    obtain ⟨s, hne, rfl, rfl⟩ := fill?_tenant hfill
    cases htarget
    obtain rfl := List.mem_singleton.mp hmethod
    exact .tenantCall hlisted hne
  · obtain rfl := List.mem_singleton.mp hmem
    cases htarget

/-- A request that addresses a call goes to it. -/
theorem dispatch_of_addresses {method : String} {path : List String} {r : Rpc}
    {segment : Option String} (h : Addresses method path r segment) :
    dispatch method path = .found (.call r) segment := by
  cases h with
  | createTenant => rfl
  | listTenants => rfl
  | deleteTenant nonempty create list =>
    simp [dispatch, routeOf?, routes, fill?, nonempty, Ne.symm create, Ne.symm list, Method.names]
  | tenantCall listed nonempty =>
    simp only [tenantPaths, List.mem_cons, Prod.mk.injEq, List.not_mem_nil, or_false] at listed
    rcases listed with ⟨rfl, rfl⟩ | ⟨rfl, rfl⟩ | ⟨rfl, rfl⟩ | ⟨rfl, rfl⟩ | ⟨rfl, rfl⟩ | ⟨rfl, rfl⟩
      | ⟨rfl, rfl⟩ <;>
    simp [dispatch, routeOf?, routes, tenantRoute, fill?, nonempty, Method.names]

/-- **Just these requests are dispatched to a call.** -/
theorem dispatch_eq_call_iff {method : String} {path : List String} {r : Rpc}
    {segment : Option String} :
    dispatch method path = .found (.call r) segment ↔ Addresses method path r segment :=
  ⟨addresses_of_dispatch, dispatch_of_addresses⟩

end Rebac.Gateway
