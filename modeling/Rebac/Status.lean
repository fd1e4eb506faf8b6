import Rebac.Rule.Basic

namespace Rebac

/-!
# Answers to a call that fails

* `Code` is the reason a caller sees, `Status` a code with a message.
* `ServiceError` is a failure of the store or the evaluator, reported under a code of its own.
* `Credential.Refusal` is a failed authentication.
-/

/-- The codes of a call. -/
inductive Code where
  | ok
  | cancelled
  | unknown
  | invalidArgument
  | deadlineExceeded
  | notFound
  | alreadyExists
  | permissionDenied
  | resourceExhausted
  | failedPrecondition
  | aborted
  | outOfRange
  | unimplemented
  | internal
  | unavailable
  | dataLoss
  | unauthenticated
  deriving DecidableEq, Inhabited

namespace Code

/-- The codes in the order of their numbers. -/
def all : List Code := [
  ok, cancelled, unknown, invalidArgument, deadlineExceeded, notFound, alreadyExists,
  permissionDenied, resourceExhausted, failedPrecondition, aborted, outOfRange, unimplemented,
  internal, unavailable, dataLoss, unauthenticated]

/-- The number of a code. -/
def number (c : Code) : Nat :=
  all.idxOf c

/-- The code of a number; a number without a code means that nothing is known. -/
def ofNumber (n : Int) : Code :=
  if 0 ≤ n then all.getD n.toNat unknown else unknown

/-- The name of a code. -/
def name : Code → String
  | ok => "OK"
  | cancelled => "CANCELLED"
  | unknown => "UNKNOWN"
  | invalidArgument => "INVALID_ARGUMENT"
  | deadlineExceeded => "DEADLINE_EXCEEDED"
  | notFound => "NOT_FOUND"
  | alreadyExists => "ALREADY_EXISTS"
  | permissionDenied => "PERMISSION_DENIED"
  | resourceExhausted => "RESOURCE_EXHAUSTED"
  | failedPrecondition => "FAILED_PRECONDITION"
  | aborted => "ABORTED"
  | outOfRange => "OUT_OF_RANGE"
  | unimplemented => "UNIMPLEMENTED"
  | internal => "INTERNAL"
  | unavailable => "UNAVAILABLE"
  | dataLoss => "DATA_LOSS"
  | unauthenticated => "UNAUTHENTICATED"

end Code

/-- Why a call failed, as its caller sees it. -/
structure Status where
  code : Code
  message : String
  deriving DecidableEq, Inhabited

/-- A failure of the store or the evaluator, with what it is about. -/
inductive ServiceError where
  | notFound (detail : String)
  | alreadyExists (detail : String)
  | invalidArgument (detail : String)
  | failedPrecondition (detail : String)
  | unavailable (detail : String)
  | internal (detail : String)
  deriving DecidableEq, Inhabited

namespace ServiceError

/-- The code under which a failure is reported. -/
def code : ServiceError → Code
  | notFound _ => .notFound
  | alreadyExists _ => .alreadyExists
  | invalidArgument _ => .invalidArgument
  | failedPrecondition _ => .failedPrecondition
  | unavailable _ => .unavailable
  | internal _ => .internal

/-- The wording of a failure. -/
def message : ServiceError → String
  | notFound d => "not found: " ++ d
  | alreadyExists d => "already exists: " ++ d
  | invalidArgument d => "invalid argument: " ++ d
  | failedPrecondition d => "failed precondition: " ++ d
  | unavailable d => "unavailable: " ++ d
  | internal d => "internal: " ++ d

/-- The status of a failure. -/
def status (e : ServiceError) : Status :=
  ⟨e.code, e.message⟩

/-! ### The failures of the store and the evaluator -/

/-- A continuous token that was not given out by a page. -/
def badToken (token : String) : ServiceError :=
  invalidArgument ("invalid continuous token " ++ Text.quoted token)

/-- A tenant without a schema. -/
def noSchema (tenant : String) : ServiceError :=
  notFound ("schema for tenant " ++ tenant)

/-- A version that a tenant does not have. -/
def noVersion (version : String) : ServiceError :=
  notFound ("schema version " ++ Text.quoted version)

/-- A tenant that is not registered. -/
def noTenant (id : String) : ServiceError :=
  notFound ("tenant " ++ id)

/-- A tenant that is registered already. -/
def tenantExists (id : String) : ServiceError :=
  alreadyExists ("tenant " ++ id)

/-- No more tenants can be registered. -/
def tenantLimit : ServiceError :=
  failedPrecondition "tenant limit reached"

/-- A part that a request lacks. -/
def missing (part : String) : ServiceError :=
  invalidArgument (part ++ " is required")

/-- A watcher that fell behind by more than the buffer holds. -/
def lagged (dropped : Nat) : ServiceError :=
  unavailable s!"watch lagged, {dropped} change sets dropped"

end ServiceError

namespace Credential

/-- Why a credential is refused. -/
inductive Refusal where
  | missing
  | unknownSecret
  | invalidToken (reason : String)
  | unknownKey (keyId : String)
  deriving DecidableEq, Inhabited

/-- The wording of a refusal. -/
def Refusal.message : Refusal → String
  | missing => "missing bearer credentials"
  | unknownSecret => "invalid preshared key"
  | invalidToken reason => "invalid token: " ++ reason
  | unknownKey keyId => "unknown signing key " ++ Text.quoted keyId

/-- The status of a refusal. -/
def Refusal.status (r : Refusal) : Status :=
  ⟨.unauthenticated, r.message⟩

end Credential

/-- The status of a field that is refused. -/
def Status.refused (field reason : String) : Status :=
  ⟨.invalidArgument, Rule.refusal field reason⟩

/-- The status of a broken rule. -/
def Rule.Violation.status (v : Rule.Violation) : Status :=
  .refused v.field v.reason.message

/-- The status of a call whose handling broke down. -/
def Status.brokenDown : Status :=
  ⟨.internal, "internal error"⟩

/-- The status of a call beyond the rate limit. -/
def Status.overLimit : Status :=
  ⟨.resourceExhausted, "rate limit exceeded"⟩

end Rebac
