import Rebac.Token.Reading
import Rebac.Token.Signature

namespace Rebac.Token

open Rebac.Json

/-!
# A library

A token is three encoded parts with points between them: a header, a payload with the claims, and a
signature of the first two parts.

* `Parts.ofText?` — the parts of a token.
* `Validation.problem?` — the first claim that is refused.
* `Library.builtIn` — the library that reads and checks such tokens.
-/

/-- A token, cut at its last two points. -/
structure Parts where
  header : List Char
  payload : List Char
  signature : List Char
  deriving DecidableEq

/-- What stands before and after the last point. -/
def cutLast? (cs : List Char) : Option (List Char × List Char) :=
  let back := cs.reverse
  match back.dropWhile (· ≠ '.') with
  | [] => none
  | _ :: front => some (front.reverse, (back.takeWhile (· ≠ '.')).reverse)

namespace Parts

/-- The parts of a token. -/
def ofText? (token : String) : Option Parts := do
  let (message, signature) ← cutLast? token.toList
  let (header, payload) ← cutLast? message
  some ⟨header, payload, signature⟩

/-- What is signed: the first two parts with the point between them. -/
def signed (p : Parts) : List UInt8 :=
  bytesOfText (String.ofList (p.header ++ '.' :: p.payload))

/-- The header of a token. -/
def readHeader (p : Parts) : Except Problem Header :=
  match base64? p.header with
  | none => .error .badEncoding
  | some bytes =>
    match (Document.ofBytes bytes).whole?.bind Header.ofNode? with
    | some header => .ok header
    | none => .error .badJson

end Parts

/-- The claims of a payload. -/
def Claims.ofPayload? (payload : List UInt8) : Option Claims :=
  (Document.ofBytes payload).whole?.bind Claims.ofNode?

namespace Validation

/-- `true` iff one of the names is among those that are accepted. -/
def meets (accepted : List String) (names : Names) : Bool :=
  accepted.any names.includes

/-- The first claim that is refused at the given time. A claim that is not required is not looked for. -/
def problem? (v : Validation) (c : Claims) (now : Nat) : Option ClaimProblem :=
  match v.required.find? fun claim => !c.has claim with
  | some claim => some (.missing claim)
  | none =>
    if v.checksExpiry && c.expiry.any fun expiry => expiry < now - v.leeway then some .expired
    else if v.issuers.any fun issuers => c.issuer.any fun names => !meets issuers names then
      some .foreignIssuer
    else if v.checksAudience && c.audience.any fun names => !isMeant names then some .foreignAudience
    else none
where
  /-- `true` iff the audience is one of those that are accepted, or nobody and none is. -/
  isMeant (names : Names) : Bool :=
    match v.audiences with
    | some audiences => meets audiences names
    | none => names = .several []

end Validation

namespace Library

/-- Goes on only under a condition; the problem is what is told else. -/
def require (condition : Bool) (problem : Problem) : Except Problem Unit :=
  if condition then .ok () else .error problem

/-- Goes on with what is there; the problem is what is told if there is nothing. -/
def found {α : Type} (x : Option α) (problem : Problem) : Except Problem α :=
  x.elim (.error problem) .ok

/-- Checks a token under a key, first its algorithm, then the signature, and the claims at last. -/
def decodeParts (reads : List UInt8 → Bool) (p : Parts) (key : Key) (v : Validation) (now : Nat) :
    Except Problem Unit := do
  let header ← p.readHeader
  require (header.algorithm ∈ v.algorithms) .unacceptedAlgorithm
  require (key.family = header.algorithm.family) .wrongKeyFamily
  require (v.algorithms.all fun a => a.family = header.algorithm.family) .unacceptedAlgorithm
  let signature ← found (base64? p.signature) .badEncoding
  require (Signature.verify header.algorithm key p.signed signature) .badSignature
  let payload ← found (base64? p.payload) .badEncoding
  require (reads payload) .badJson
  let claims ← found (Claims.ofPayload? payload) .badJson
  (v.problem? claims now).elim (.ok ()) fun problem => .error (.badClaim problem)

/-- The library. -/
def builtIn : Library where
  header token := do
    let p ← found (Parts.ofText? token) .malformed
    p.readHeader
  keySet? document := (Document.ofBytes document).whole?.bind publishedKeys?
  key? := Published.decode?
  decode reads token key v now := do
    let p ← found (Parts.ofText? token) .malformed
    decodeParts reads p key v now

end Library

end Rebac.Token
