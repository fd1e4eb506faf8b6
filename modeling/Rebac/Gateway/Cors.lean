import Rebac.Config.Settings
import Rebac.Http.Message
import Rebac.Text.Quoted

namespace Rebac.Gateway

open Rebac.Http

/-!
# Requests from other origins

A browser lets a page of another origin see an answer only if the answer grants it. Credentials are
always granted, so a grant names the origin itself and never stands for all origins: a star among the
settings grants every request what it asks for.

* `Cors.ofSettings` is the policy of the settings, or why they are refused.
* `Cors.around` adds the grants to the answers, and answers requests that only ask for grants.
-/

/-- To whom something is granted: to whoever asks, or to those in a list. -/
inductive Granted (α : Type) where
  | asked
  | listed (items : List α)
  deriving DecidableEq

/-- The policy: which origins and which headers are granted. -/
structure Cors where
  origins : Granted (List UInt8)
  headers : Granted String

/-- Why the settings of a policy are refused. -/
inductive CorsError where
  | badOrigin (origin : String)
  | badHeader (name : String)
  deriving DecidableEq

/-- The wording of the refusal. -/
def CorsError.message : CorsError → String
  | badOrigin o => "invalid cors origin " ++ Text.quoted o ++ ": failed to parse header value"
  | badHeader h => "invalid cors header " ++ Text.quoted h ++ ": invalid HTTP header name"

namespace Cors

/-- The word that stands for everything. -/
def star : String := "*"

/-- The value of an origin, which must be able to stand in a header. -/
def readOrigin (o : String) : Except CorsError (List UInt8) :=
  if (Json.bytesOfText o).all Header.isValueByte then .ok (Json.bytesOfText o)
  else .error (.badOrigin o)

/-- The name of a header in lower case. -/
def readHeader (h : String) : Except CorsError String :=
  if Header.isName h then .ok (Header.foldName h) else .error (.badHeader h)

/-- What a list of settings grants. With a star in it the other items do not matter. -/
def readGranted {α : Type} (read : String → Except CorsError α) (items : List String) :
    Except CorsError (Granted α) :=
  if items.contains star then .ok .asked
  else do
    let items ← items.mapM read
    .ok (.listed items)

/-- The policy of the settings. -/
def ofSettings (s : Config.Http) : Except CorsError Cors := do
  let origins ← readGranted readOrigin s.corsAllowedOrigins
  let headers ← readGranted readHeader s.corsAllowedHeaders
  .ok ⟨origins, headers⟩

/-- The methods that are granted. -/
def methods : List String := ["GET", "POST", "HEAD", "PATCH", "DELETE", "PUT"]

/-- The header in which a request names its origin. -/
def originName : String := "origin"

/-- The header in which a request names the headers it wants to send. -/
def requestedName : String := "access-control-request-headers"

/-- The header that grants an origin. -/
def grantedOriginName : String := "access-control-allow-origin"

/-- `true` iff an origin is granted. -/
def grantsOrigin (c : Cors) (origin : List UInt8) : Bool :=
  match c.origins with
  | .asked => true
  | .listed items => items.contains origin

/-- The header that grants the origin of a request. -/
def originHeaders (c : Cors) (r : Request) : Metadata :=
  match r.headers.first? originName with
  | some h => if c.grantsOrigin h.value then [⟨grantedOriginName, h.value⟩] else []
  | none => []

/-- The headers on every answer. -/
def commonHeaders (c : Cors) (r : Request) : Metadata :=
  textHeader "access-control-allow-credentials" "true"
    :: textHeader "vary" "origin, access-control-request-method, access-control-request-headers"
    :: c.originHeaders r

/-- The header that grants headers. -/
def headerHeaders (c : Cors) (r : Request) : Metadata :=
  match c.headers with
  | .asked =>
    match r.headers.first? requestedName with
    | some h => [⟨"access-control-allow-headers", h.value⟩]
    | none => []
  | .listed [] => []
  | .listed names => [textHeader "access-control-allow-headers" (",".intercalate names)]

/-- The answer to a request that asks for grants. -/
def preflight (c : Cors) (r : Request) : Response where
  status := 200
  headers := c.commonHeaders r
    ++ textHeader "access-control-allow-methods" (",".intercalate methods) :: c.headerHeaders r
  body := []

/-- The method of requests that ask for grants. -/
def preflightMethod : String := "OPTIONS"

/-- Answers requests that ask for grants, and adds the grants to all other answers. -/
def around {σ : Type} (c : Cors) (next : Request → σ → Response × σ) (r : Request) (s : σ) :
    Response × σ :=
  if r.method = preflightMethod then (c.preflight r, s)
  else
    let (response, s) := next r s
    ({ response with headers := response.headers ++ c.commonHeaders r }, s)

end Cors

end Rebac.Gateway
