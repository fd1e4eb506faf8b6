import Rebac.Json.Writer
import Rebac.Json.Reader
import Rebac.Status

namespace Rebac.Gateway

open Rebac.Json

/-!
# Failures over HTTP

A failed call is answered with the HTTP status of its code and a JSON body that holds the name of the
code, the message, and an empty list of details.

* `httpStatus` is the HTTP status of a code.
* `problemBody` is the body of a failure.
-/

/-- The HTTP status of a code. -/
def httpStatus : Code → Nat
  | .ok => 200
  | .cancelled => 499
  | .invalidArgument | .failedPrecondition | .outOfRange => 400
  | .deadlineExceeded => 504
  | .notFound => 404
  | .alreadyExists | .aborted => 409
  | .permissionDenied => 403
  | .unauthenticated => 401
  | .resourceExhausted => 429
  | .unimplemented => 501
  | .unavailable => 503
  | .unknown | .internal | .dataLoss => 500

/-- The JSON value of a failure. -/
def problemValue (s : Status) : Value :=
  .object [("code", .text s.code.name), ("message", .text s.message), ("details", .array [])]

/-- The body of a failure. -/
def problemBody (s : Status) : List UInt8 :=
  (problemValue s).write

end Rebac.Gateway
