import Rebac.Proofs.Gateway.Answer
import Rebac.Proofs.Json.Text

namespace Rebac.Gateway

open Rebac.Http Rebac.Service Rebac.Json Rebac.Record Rebac.Rule Rebac.Message

/-!
# Tenants in paths

The id of a tenant stands in a path as it is. Two ids are also words of other paths, which are tried
before the path of a removal.

* `segmentsOf_pathOf`, `percentDecoded_of_plain` — a path is cut into its segments again, and a segment
  of plain characters stands for itself; by `plain_of_accepts`, the characters of tenant ids are plain.
* `asks_tenantCall`, `asks_deleteTenant`, `answerRouted_reserved` — what a request about a tenant asks
  for.
* `Reached`, `tenants_reached` — **which tenants are reached**, and by which calls.
* `reserved_tenant_stays` — a tenant that can be registered and not be removed.
-/

/-! ### Paths -/

/-- The path of some segments. -/
def pathOf (segments : List String) : String :=
  "/".intercalate ("" :: segments)

/-- The path about a tenant, with the words after its id. -/
def tenantPath (id : String) (words : List String) : String :=
  pathOf ("v1" :: "tenants" :: id :: words)

example : tenantPath "acme" ["data", "write"] = "/v1/tenants/acme/data/write" := by decide

/-- A path is cut into the segments that it was made of. -/
theorem segmentsOf_pathOf {segments : List String} (h : ∀ s ∈ segments, '/' ∉ s.toList) :
    segmentsOf (pathOf segments) = segments := by
  have hparts : ∀ cs ∈ ("" :: segments).map String.toList, '/' ∉ cs := by
    rw [List.forall_mem_map]
    exact List.forall_mem_cons.mpr ⟨List.not_mem_nil, h⟩
  have hsplit := List.splitOn_intercalate '/' hparts (by simp)
  rw [segmentsOf, partsBetween, pathOf, String.toList_intercalate, show "/".toList = ['/'] from rfl,
    hsplit, List.map_map]
  show segments.map (String.ofList ∘ String.toList) = segments
  exact (List.map_congr_left fun s _ => String.ofList_toList).trans (List.map_id _)

/-- Bytes without a percent sign stand for themselves. -/
theorem percentBytes_of_plain {bytes : List UInt8} (h : ∀ b ∈ bytes, b ≠ 0x25) :
    percentBytes bytes = bytes := by
  induction bytes with
  | nil => rfl
  | cons b rest ih =>
    obtain ⟨hb, hrest⟩ := List.forall_mem_cons.mp h
    rw [percentBytes, ih hrest]
    rintro a b' rest' rfl -
    exact hb rfl

/-- A segment of ASCII characters without a percent sign stands for itself. -/
theorem percentDecoded_of_plain {s : String} (h : ∀ c ∈ s.toList, c.toNat < 128 ∧ c ≠ '%') :
    percentDecoded s = some s := by
  have hbytes : bytesOfText s = s.toList.map ascii := bytesOfText_of_ascii fun c hc => (h c hc).1
  have hplain : ∀ b ∈ bytesOfText s, b ≠ 0x25 := by
    rw [hbytes, List.forall_mem_map]
    intro c hc hpercent
    refine (h c hc).2 (Char.toNat_inj.mp ?_)
    rw [← toNat_ascii (h c hc).1, hpercent]
    rfl
  rw [percentDecoded, percentBytes_of_plain hplain, textOfBytes_bytesOfText]
  rfl

/-! ### Ids -/

section Ids

variable {id : String}

/-- Ids of tenants are made of characters of one byte. -/
theorem toNat_lt_of_isTenantChar {c : Char} (h : isTenantChar c = true) : c.toNat < 128 := by
  simp only [isTenantChar, isLetter, isDigit, Bool.or_eq_true, Bool.and_eq_true,
    decide_eq_true_eq] at h
  rcases h with (((((((⟨-, h⟩ | ⟨-, h⟩) | ⟨-, h⟩) | rfl) | rfl) | rfl) | rfl) | rfl) | rfl
  · exact Nat.lt_of_le_of_lt h (show 'z'.toNat < 128 by decide)
  · exact Nat.lt_of_le_of_lt h (show 'Z'.toNat < 128 by decide)
  · exact Nat.lt_of_le_of_lt h (show '9'.toNat < 128 by decide)
  all_goals decide

/-- The characters of a tenant id are ASCII characters other than those that mean something in a
    path. -/
theorem plain_of_accepts (h : NameKind.tenantId.accepts id = true) :
    id ≠ "" ∧ ∀ c ∈ id.toList, c.toNat < 128 ∧ c ≠ '%' ∧ c ≠ '/' := by
  have hchars : id.toList = ['*']
      ∨ (1 ≤ id.toList.length ∧ id.toList.length ≤ 128) ∧ ∀ c ∈ id.toList, isTenantChar c = true := by
    simpa [NameKind.accepts, tenantIdChars] using h
  rcases hchars with hstar | ⟨⟨hlength, -⟩, hall⟩
  · refine ⟨?_, ?_⟩
    · rintro rfl
      cases hstar
    · rw [hstar]
      simp
  · refine ⟨?_, fun c hc => ⟨toNat_lt_of_isTenantChar (hall c hc), ?_, ?_⟩⟩
    · rintro rfl
      exact absurd hlength (by decide)
    · rintro rfl
      exact absurd (hall _ hc) (by decide)
    · rintro rfl
      exact absurd (hall _ hc) (by decide)

/-- The segments of a path about a tenant. -/
theorem segmentsOf_tenantPath (h : NameKind.tenantId.accepts id = true) {words : List String}
    (plain : ∀ w ∈ words, '/' ∉ w.toList) :
    segmentsOf (tenantPath id words) = "v1" :: "tenants" :: id :: words := by
  refine segmentsOf_pathOf ?_
  simp only [List.forall_mem_cons]
  exact ⟨by decide, by decide, fun hslash => ((plain_of_accepts h).2 _ hslash).2.2 rfl, plain⟩

/-- The id of a tenant stands for itself in a path. -/
theorem percentDecoded_id (h : NameKind.tenantId.accepts id = true) : percentDecoded id = some id :=
  percentDecoded_of_plain fun c hc =>
    ⟨((plain_of_accepts h).2 c hc).1, ((plain_of_accepts h).2 c hc).2.1⟩

/-! ### Requests about a tenant -/

/-- The words that stand where a tenant stands in the paths of calls about no tenant. -/
def reserved : List String := ["create", "list"]

/-- The tenant that the message of a call names; calls about no tenant name none. -/
def tenantOf : (r : Rpc) → r.Request → Option String
  | .check, m => some m.tenantId
  | .lookupEntity, m => some m.tenantId
  | .writeSchema, m => some m.tenantId
  | .readSchema, m => some m.tenantId
  | .writeData, m => some m.tenantId
  | .readRelationships, m => some m.tenantId
  | .deleteData, m => some m.tenantId
  | .createTenant, _ => none
  | .deleteTenant, m => some m.id
  | .listTenants, _ => none
  | .watch, m => some m.tenantId

variable {σ : Type} {q : Request} {r : Rpc} {words : List String}

/-- The message of a request about a tenant names it, whatever its body says. -/
theorem tenantOf_messageOf {body : List UInt8} {m : r.Request} (create : r ≠ .createTenant)
    (list : r ≠ .listTenants) (h : messageOf r (some id) body = .ok m) : tenantOf r m = some id := by
  unfold messageOf at h
  cases hbody : messageOfBody r body with
  | error e =>
    rw [hbody] at h
    cases h
  | ok m' =>
    rw [hbody] at h
    cases h
    cases r with
    | createTenant => exact absurd rfl create
    | listTenants => exact absurd rfl list
    | _ => rfl

/-- The paths of the calls about one tenant are made of plain words, and lead to no other calls. -/
theorem plain_of_listed (listed : (r, words) ∈ tenantPaths) :
    (∀ w ∈ words, '/' ∉ w.toList) ∧ r ≠ .createTenant ∧ r ≠ .listTenants := by
  have hall : ∀ p ∈ tenantPaths, (∀ w ∈ p.2, '/' ∉ w.toList) ∧ p.1 ≠ .createTenant
      ∧ p.1 ≠ .listTenants := by decide
  exact hall _ listed

/-- A request with the path of a call about a tenant asks for it, whatever the id. -/
theorem asks_tenantCall (valid : NameKind.tenantId.accepts id = true)
    (listed : (r, words) ∈ tenantPaths) (method : q.method = "POST")
    (path : q.path = tenantPath id words) : Asks q r (some id) := by
  have hsegments := segmentsOf_tenantPath valid (plain_of_listed listed).1
  refine .named ?_ (percentDecoded_id valid)
  rw [method, path, hsegments]
  exact .tenantCall listed (plain_of_accepts valid).1

/-- A request to remove a tenant asks for it, unless the id is reserved. -/
theorem asks_deleteTenant (valid : NameKind.tenantId.accepts id = true) (free : id ∉ reserved)
    (method : q.method = "DELETE") (path : q.path = tenantPath id []) :
    Asks q .deleteTenant (some id) := by
  have hfree : id ≠ "create" ∧ id ≠ "list" := by simpa [reserved] using free
  refine .named ?_ (percentDecoded_id valid)
  rw [method, path, segmentsOf_tenantPath valid (List.forall_mem_nil _)]
  exact .deleteTenant (plain_of_accepts valid).1 hfree.1 hfree.2

/-- **A reserved id is taken for a word of another path**, which has another method. -/
theorem answerRouted_reserved (taken : id ∈ reserved) (method : q.method = "DELETE")
    (path : q.path = tenantPath id []) (u : Link σ) (s : σ) :
    answerRouted u q s = (⟨405, [textHeader "allow" "POST"], []⟩, s) := by
  have hword : id = "create" ∨ id = "list" := by simpa [reserved] using taken
  have hdispatch : dispatch q.method (segmentsOf q.path) = .notAllowed ["POST"] := by
    rw [method, path]
    rcases hword with rfl | rfl
    · rw [segmentsOf_tenantPath (by decide) (List.forall_mem_nil _)]
      decide
    · rw [segmentsOf_tenantPath (by decide) (List.forall_mem_nil _)]
      decide
  rw [answerRouted, hdispatch]
  rfl

end Ids

/-! ### Tenants that are reached -/

/-- How a tenant is reached by requests to the gateway. -/
structure Reached (id : String) : Prop where
  /-- A request with the path of one of the seven calls about a tenant makes this call, and the message
      names the tenant, whatever the body says. -/
  calls : ∀ r words, (r, words) ∈ tenantPaths → ∀ q : Request, q.method = "POST" →
    q.path = tenantPath id words →
    (∀ {σ : Type} (u : Link σ) s, answerRouted u q s = answerCall u s r (some id) q)
    ∧ ∀ m, messageOf r (some id) q.body = .ok m → tenantOf r m = some id
  /-- A request to remove the tenant makes the call, unless the id is reserved; then the method is
      refused, and nothing happens. -/
  removal : ∀ q : Request, q.method = "DELETE" → q.path = tenantPath id [] →
    ∀ {σ : Type} (u : Link σ) s, answerRouted u q s
      = if id ∈ reserved then (⟨405, [textHeader "allow" "POST"], []⟩, s)
        else answerCall u s .deleteTenant (some id) q
  /-- If the tenant is registered, a request that is let in removes it, unless the id is reserved. -/
  removed : ∀ q : Request, q.method = "DELETE" → q.path = tenantPath id [] →
    ∀ policy e around (p : Primary) tenant, p.backend.store.registry.find? id = some tenant →
      p.backend.admits around (carried q.headers) = true →
      let reply := answer policy (.ofServices e around) q p
      if id ∈ reserved then reply.1.status = 405 ∧ reply.2 = p
      else reply.1.status = 200 ∧ reply.2.backend.store.registry.find? id = none

/-- A registered tenant is removed by a request that is let in. -/
theorem removed_of_asks {id : String} {q : Request} (asks : Asks q .deleteTenant (some id))
    (valid : NameKind.tenantId.accepts id = true) (policy : Cors) (e : Evaluator)
    {around : Surroundings} {p : Primary} {tenant : Tenant}
    (registered : p.backend.store.registry.find? id = some tenant)
    (admitted : p.backend.admits around (carried q.headers) = true) :
    (answer policy (.ofServices e around) q p).1.status = 200
      ∧ (answer policy (.ofServices e around) q p).2.backend.store.registry.find? id = none := by
  obtain ⟨headers, hanswer⟩ := answer_of_asks policy (.ofServices e around) p asks
  obtain ⟨hcall, hgone⟩ := removed_of_registered (e := e) valid admitted registered
  rw [hanswer, answerCall_eq _ _ (.bodiless rfl) fun h => absurd rfl h]
  refine ⟨?_, hgone⟩
  show (outcomeResponse .deleteTenant
    (p.backend.call e around (carried q.headers) .deleteTenant ⟨id⟩).1).status = 200
  rw [hcall]
  rfl

/-- A request whose call registers a tenant shows success; the id is a tenant id, and the tenant's from
    then on. -/
theorem registered_of_request {id name : String} {q : Request} (policy : Cors) {e : Evaluator}
    {around : Surroundings} {p : Primary} {response : TenantCreateResponse}
    (method : q.method = "POST") (path : q.path = pathOf ["v1", "tenants", "create"])
    (fits : q.body.length ≤ bodyLimit) (means : Means .createTenant q.body (.ok ⟨id, name⟩))
    (created : (p.backend.call e around (carried q.headers) .createTenant ⟨id, name⟩).1
      = .answer response) :
    let reply := answer policy (.ofServices e around) q p
    reply.1.status = 200 ∧ NameKind.tenantId.accepts id = true
      ∧ reply.2.backend.store.registry.find? id = some ⟨id, name, around.context.now⟩ := by
  intro reply
  have asks : Asks q .createTenant none := by
    refine .plain ?_
    rw [method, path, segmentsOf_pathOf (by decide)]
    exact .createTenant
  obtain ⟨headers, hanswer⟩ := answer_of_asks policy (.ofServices e around) p asks
  rw [answerCall_eq _ _ means fun _ => fits] at hanswer
  obtain ⟨hpasses, -⟩ := (answer_call_iff ..).mp created
  obtain ⟨hfree, hstore⟩ := store_created created
  have hreply : reply = _ := hanswer
  rw [hreply]
  refine ⟨?_, (valid_createTenant_iff.mp (valid_of_passes hpasses)).1, ?_⟩
  · show (outcomeResponse .createTenant
      (p.backend.call e around (carried q.headers) .createTenant ⟨id, name⟩).1).status = 200
    rw [created]
    rfl
  · show (p.backend.call e around (carried q.headers) .createTenant
      ⟨id, name⟩).2.store.registry.find? id = _
    rw [hstore]
    exact (Store.find?_insert hfree id).trans (if_pos rfl)

/-- **Which tenants are reached.** Every tenant id is reached by all calls about a tenant but one: the
    two reserved ids are not reached by a removal. An id that a tenant is registered with by a request is
    one of these. -/
theorem tenants_reached (id : String) :
    (NameKind.tenantId.accepts id = true → Reached id)
    ∧ ∀ (policy : Cors) (e : Evaluator) (around : Surroundings) (p : Primary) (q : Request)
        (name : String) (response : TenantCreateResponse),
        q.method = "POST" → q.path = pathOf ["v1", "tenants", "create"] →
        q.body.length ≤ bodyLimit → Means .createTenant q.body (.ok ⟨id, name⟩) →
        (p.backend.call e around (carried q.headers) .createTenant ⟨id, name⟩).1 = .answer response →
        let reply := answer policy (.ofServices e around) q p
        reply.1.status = 200 ∧ NameKind.tenantId.accepts id = true
          ∧ reply.2.backend.store.registry.find? id = some ⟨id, name, around.context.now⟩ := by
  constructor
  · intro valid
    refine ⟨?_, ?_, ?_⟩
    · intro r words listed q method path
      obtain ⟨-, hcreate, hlist⟩ := plain_of_listed listed
      exact ⟨fun u s => answerRouted_of_asks u s (asks_tenantCall valid listed method path),
        fun m => tenantOf_messageOf hcreate hlist⟩
    · intro q method path _ u s
      split
      · next taken => exact answerRouted_reserved taken method path u s
      · next free => exact answerRouted_of_asks u s (asks_deleteTenant valid free method path)
    · intro q method path policy e around p tenant registered admitted
      split
      · next taken =>
        have hnone : q.method ≠ Cors.preflightMethod := by rw [method]; decide
        rw [answer, Cors.around, if_neg hnone, answerRouted_reserved taken method path]
        exact ⟨rfl, rfl⟩
      · next free =>
        exact removed_of_asks (asks_deleteTenant valid free method path) valid policy e registered
          admitted
  · intro policy e around p q name response method path fits means created
    exact registered_of_request policy method path fits means created

/-! ### A tenant that is not reached -/

/-- A request to register a tenant of that id. -/
def registering (id : String) : Request where
  method := "POST"
  path := "/v1/tenants/create"
  query := ""
  headers := []
  body := bytesOfText ("\x7b\"id\":\"" ++ id ++ "\",\"name\":\"x\"\x7d")

/-- A request to remove a tenant of that id. -/
def removing (id : String) : Request where
  method := "DELETE"
  path := tenantPath id []
  query := ""
  headers := []
  body := []

/-- Services that anyone may call. -/
def unguarded : Primary :=
  ⟨.start 0 ⟨.ofRate 10, none⟩, .empty⟩

/-- What becomes of a request to these services. -/
def asked (q : Request) (p : Primary) : Response × Primary :=
  answer ⟨.asked, .asked⟩ (.ofServices .direct ⟨⟨0, .unreachable⟩, ⟨0, ""⟩⟩) q p

/-- A tenant is registered and removed again. -/
theorem tenants_reached_acme :
    let created := asked (registering "acme") unguarded
    let removed := asked (removing "acme") created.2
    created.1.status = 200
      ∧ created.2.backend.store.registry.find? "acme" = some ⟨"acme", "x", 0⟩
      ∧ removed.1.status = 200 ∧ removed.2.backend.store.registry.find? "acme" = none := by
  intro created removed
  obtain ⟨hreached, hregistered⟩ := tenants_reached "acme"
  have means : Means .createTenant (registering "acme").body (.ok ⟨"acme", "x"⟩) :=
    .read (by decide) ⟨0x7b, by decide, by decide⟩
  obtain ⟨hstatus, valid, hfound⟩ := hregistered ⟨.asked, .asked⟩ .direct
    ⟨⟨0, .unreachable⟩, ⟨0, ""⟩⟩ unguarded (registering "acme") "x" ⟨some ⟨"acme", "x", 0⟩⟩ rfl
    (by decide) (by decide) means rfl
  have hremoved := (hreached valid).removed (removing "acme") rfl rfl ⟨.asked, .asked⟩ .direct
    ⟨⟨0, .unreachable⟩, ⟨0, ""⟩⟩ created.2 _ hfound rfl
  rw [if_neg (by decide)] at hremoved
  exact ⟨hstatus, hfound, hremoved⟩

/-- **A tenant of a reserved id is registered, and cannot be removed.** -/
theorem reserved_tenant_stays :
    let created := asked (registering "create") unguarded
    let removed := asked (removing "create") created.2
    NameKind.tenantId.accepts "create" = true
      ∧ created.1.status = 200
      ∧ created.2.backend.store.registry.find? "create" = some ⟨"create", "x", 0⟩
      ∧ removed.1.status = 405
      ∧ removed.2.backend.store.registry.find? "create" = some ⟨"create", "x", 0⟩ := by
  intro created removed
  exact ⟨by decide, rfl, rfl, rfl, rfl⟩

end Rebac.Gateway
