import Rebac.Gateway.Cors
import Rebac.Gateway.Problem
import Rebac.Gateway.Route
import Rebac.Server.Health
import Rebac.Service.Backend

namespace Rebac.Gateway

open Rebac.Http Rebac.Service Rebac.Json

/-!
# Answers of the gateway

The gateway makes one call for each request: the body gives the message, the path gives the tenant,
and the credential is passed on. It decides nothing about the call itself.

* `Link` is the server behind the gateway.
* `messageOf` is the message of a request, `credentialOf` its credential.
* `answer` is the answer to a request.
-/

/-- The server behind the gateway, with a state. -/
structure Link (σ : Type) where
  /-- Makes a call. -/
  call : σ → Metadata → (r : Rpc) → r.Request → Outcome r.Response × σ
  /-- The status of a service. -/
  health : σ → String → Except Status Server.ServingStatus

/-! ### Requests -/

/-- A blank byte of a body. -/
def isBlankByte (b : UInt8) : Bool :=
  b = 9 || b = 10 || b = 12 || b = 13 || b = 32

/-- The largest body that is read, in bytes. -/
def bodyLimit : Nat := 2097152

/-- The message with the tenant of the path in place of its own. Calls about no tenant keep theirs. -/
def withTenant (tenant : String) : (r : Rpc) → r.Request → r.Request
  | .check, m => { m with tenantId := tenant }
  | .lookupEntity, m => { m with tenantId := tenant }
  | .writeSchema, m => { m with tenantId := tenant }
  | .readSchema, m => { m with tenantId := tenant }
  | .writeData, m => { m with tenantId := tenant }
  | .readRelationships, m => { m with tenantId := tenant }
  | .deleteData, m => { m with tenantId := tenant }
  | .createTenant, m => m
  | .deleteTenant, m => { m with id := tenant }
  | .listTenants, m => m
  | .watch, m => { m with tenantId := tenant }

/-- `true` iff the message of a call is read from the body. -/
def readsBody : Rpc → Bool
  | .deleteTenant => false
  | _ => true

/-- The message of a body; a blank one gives the message without fields. -/
def messageOfBody (r : Rpc) (body : List UInt8) : Except Record.DecodeError r.Request :=
  if readsBody r && !body.all isBlankByte then Record.ofJson r.Request body
  else .ok (Record.blank r.Request)

/-- The message of a call, with the tenant of the path if the route has one. -/
def messageOf (r : Rpc) (tenant : Option String) (body : List UInt8) :
    Except Record.DecodeError r.Request :=
  (messageOfBody r body).map fun m =>
    match tenant with
    | some t => withTenant t r m
    | none => m

/-- The name under which a credential is sent. -/
def credentialName : String := "authorization"

/-- The credential that is passed on: the first of a request, if it can be read as text. -/
def credentialOf (headers : Metadata) : Metadata :=
  match headers.first? credentialName with
  | some h => if h.value.all Header.isTextByte then [h] else []
  | none => []

/-! ### Responses -/

/-- A response with a JSON value. -/
def jsonResponse (status : Nat) (v : Value) : Response :=
  ⟨status, [textHeader "content-type" "application/json"], v.write⟩

/-- A response with a text. -/
def textResponse (status : Nat) (text : String) : Response :=
  ⟨status, [textHeader "content-type" "text/plain; charset=utf-8"], bytesOfText text⟩

/-- The response of a failed call. -/
def problemResponse (s : Status) : Response :=
  jsonResponse (httpStatus s.code) (problemValue s)

/-- The status of a body that cannot be read. -/
def malformedBody (e : Record.DecodeError) : Status :=
  ⟨.invalidArgument, "malformed request body: " ++ e.message⟩

/-- The response of a call. -/
def outcomeResponse (r : Rpc) : Outcome r.Response → Response
  | .answer m => jsonResponse 200 (r.responseValue m)
  | .failure s => problemResponse s
  | .breakdown => problemResponse .brokenDown

section

variable {σ : Type}

/-- Makes the call of a request. -/
def answerCall (u : Link σ) (s : σ) (r : Rpc) (tenant : Option String) (q : Request) :
    Response × σ :=
  if readsBody r && bodyLimit < q.body.length then
    (textResponse 413 "Failed to buffer the request body: length limit exceeded", s)
  else
    match messageOf r tenant q.body with
    | .error e => (problemResponse (malformedBody e), s)
    | .ok m =>
      let (outcome, s) := u.call s (credentialOf q.headers) r m
      (outcomeResponse r outcome, s)

/-- The service that a query asks about: that of its only field `service`. -/
def serviceOf (query : String) : Except String String :=
  match (queryFields query).filter fun f => f.1 = "service" with
  | [] => .ok Server.Health.wholeServer
  | [f] => .ok f.2
  | _ => .error "Failed to deserialize query string: duplicate field `service`"

/-- Tells the health of a service. -/
def answerHealth (u : Link σ) (s : σ) (q : Request) : Response :=
  match serviceOf q.query with
  | .error reason => textResponse 400 reason
  | .ok service =>
    match u.health s service with
    | .error failure => problemResponse failure
    | .ok status =>
      if status = .serving then jsonResponse 200 (.object [("status", .text status.name)])
      else problemResponse ⟨.unavailable, "primary server is " ++ status.name⟩

/-- A response without its body if the method asks for none. -/
def forMethod (method : String) (response : Response) : Response :=
  if method = "HEAD" then { response with body := [] } else response

/-- The header that tells the methods of a route. -/
def allowHeader (methods : List String) : Header :=
  textHeader "allow" (",".intercalate methods)

/-- Answers a request on its route. -/
def answerRouted (u : Link σ) (q : Request) (s : σ) : Response × σ :=
  match dispatch q.method (segmentsOf q.path) with
  | .notFound => (⟨404, [], []⟩, s)
  | .notAllowed methods => (⟨405, [allowHeader methods], []⟩, s)
  | .found .health _ => (forMethod q.method (answerHealth u s q), s)
  | .found (.call r) none => answerCall u s r none q
  | .found (.call r) (some segment) =>
    match percentDecoded segment with
    | some tenant => answerCall u s r (some tenant) q
    | none => (textResponse 400 "Invalid URL: Invalid UTF-8 in `tenant_id`", s)

/-- What a request for grants is told of its route beside the grants. -/
def toldMethods (q : Request) : Metadata :=
  if q.method = Cors.preflightMethod then
    match dispatch q.method (segmentsOf q.path) with
    | .notAllowed methods => [allowHeader methods]
    | _ => []
  else []

/-- Answers a request under a policy. -/
def answer (policy : Cors) (u : Link σ) (q : Request) (s : σ) : Response × σ :=
  let (response, s) := policy.around (answerRouted u) q s
  ({ response with headers := response.headers ++ toldMethods q }, s)

end

/-! ### The primary server -/

/-- The primary server as the gateway sees it. -/
structure Primary where
  backend : Backend
  health : Server.Health

/-- Calls reach the services of the primary server. -/
def Link.ofServices (e : Evaluator) (around : Surroundings) : Link Primary where
  call p metadata r m :=
    let (outcome, backend) := p.backend.call e around metadata r m
    (outcome, { p with backend := backend })
  health p service := p.health.check service

/-- Nobody is reached any more, and every call fails alike. -/
def Link.gone {σ : Type} (failure : Status) : Link σ where
  call s _ _ _ := (.failure failure, s)
  health _ _ := .error failure

end Rebac.Gateway
