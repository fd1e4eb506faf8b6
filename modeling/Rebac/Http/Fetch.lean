import Rebac.Http.Reason
import Rebac.Http.Url
import Rebac.Json.Reader

namespace Rebac.Http

open Rebac.Json

/-!
# Fetching documents

A document is fetched from an address; what came of it is an `Exchange`.

* `body` is what an exchange brought, or why it brought nothing.
-/

/-- What a request came to: no answer at all, or a status and a body. -/
inductive Exchange where
  | unreachable
  | answered (status : Nat) (body : List UInt8)
  deriving DecidableEq

/-- Why there is no document. -/
inductive FetchError where
  | noAddress
  | badScheme (url : String)
  | unreachable (url : String)
  | badStatus (status : Nat) (url : String)
  | badBody
  deriving DecidableEq

/-- The wording of the error. -/
def FetchError.message : FetchError → String
  | noAddress => "builder error"
  | badScheme url => s!"builder error for url ({url})"
  | unreachable url => s!"error sending request for url ({url})"
  | badStatus status url =>
    let side := if status < 500 then "client" else "server"
    s!"HTTP status {side} error ({status} {reasonOf status}) for url ({url})"
  | badBody => "error decoding response body"

/-- The address that is really requested. -/
def requestable (address : String) : Except FetchError Url :=
  match Url.parse? address with
  | none => .error .noAddress
  | some u => if u.isRequestable then .ok u else .error (.badScheme u.text)

/-- The body of an answer that is not an error. -/
def body (address : String) (e : Exchange) : Except FetchError (List UInt8) := do
  let u ← requestable address
  match e with
  | .unreachable => .error (.unreachable u.text)
  | .answered status body =>
    if 400 ≤ status && status < 600 then .error (.badStatus status u.text) else .ok body

end Rebac.Http
