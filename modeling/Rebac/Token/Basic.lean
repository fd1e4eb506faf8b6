namespace Rebac.Token

/-!
# Signed tokens

A token is signed by an issuer whose keys are published. Tokens are read and checked by a library that
is not part of this development: only what it is asked, and what it is told to check, is modelled.

* `Algorithm`, `Family`, `Key` — what tokens are signed with.
* `Header`, `Claims` — what a token says of its signature, and of itself.
* `Validation` — what the library is told to check, `Validation.ofAlgorithm` is what it checks by
  default.
* `Library` — the functions of the library.
-/

/-! ### Keys -/

/-- The kinds of keys. -/
inductive Family where
  | hmac
  | rsa
  | ec
  | ed
  deriving DecidableEq

/-- The signature algorithms. -/
inductive Algorithm where
  | hs256
  | hs384
  | hs512
  | es256
  | es384
  | rs256
  | rs384
  | rs512
  | ps256
  | ps384
  | ps512
  | edDSA
  deriving DecidableEq

namespace Algorithm

/-- All algorithms. -/
def all : List Algorithm :=
  [hs256, hs384, hs512, es256, es384, rs256, rs384, rs512, ps256, ps384, ps512, edDSA]

/-- The name of an algorithm. -/
def name : Algorithm → String
  | hs256 => "HS256"
  | hs384 => "HS384"
  | hs512 => "HS512"
  | es256 => "ES256"
  | es384 => "ES384"
  | rs256 => "RS256"
  | rs384 => "RS384"
  | rs512 => "RS512"
  | ps256 => "PS256"
  | ps384 => "PS384"
  | ps512 => "PS512"
  | edDSA => "EdDSA"

/-- The algorithm of that name. -/
def ofName? (s : String) : Option Algorithm :=
  all.find? fun a => a.name = s

/-- The kind of key of an algorithm. -/
def family : Algorithm → Family
  | hs256 | hs384 | hs512 => .hmac
  | es256 | es384 => .ec
  | rs256 | rs384 | rs512 | ps256 | ps384 | ps512 => .rsa
  | edDSA => .ed

end Algorithm

/-- The key of an issuer: a secret, a modulus and an exponent, the two coordinates of a point one after
    the other, or the bytes of a point. -/
inductive Key where
  | secret (value : List UInt8)
  | rsa (modulus exponent : Nat)
  | ec (coordinates : List UInt8)
  | ed (point : List UInt8)
  deriving DecidableEq

/-- The kind of a key. -/
def Key.family : Key → Family
  | secret _ => .hmac
  | rsa _ _ => .rsa
  | ec _ => .ec
  | ed _ => .ed

/-- What a key is made of as it is published, its parts still encoded. -/
inductive Material where
  | secret (k : String)
  | rsa (n e : String)
  | ec (x y : String)
  | ed (x : String)
  deriving DecidableEq

/-- A key as it is published. -/
structure Published where
  /-- The name of the key, if it has one. -/
  name : Option String
  material : Material
  deriving DecidableEq

/-! ### Tokens -/

/-- The header of a token: its algorithm, and the name of its key if it gives one. -/
structure Header where
  algorithm : Algorithm
  keyName : Option String
  deriving DecidableEq

/-- One name or several. -/
inductive Names where
  | one (name : String)
  | several (names : List String)
  deriving DecidableEq

/-- `true` iff the names include the given one. -/
def Names.includes (ns : Names) (name : String) : Bool :=
  match ns with
  | one n => n = name
  | several ns => ns.contains name

/-- The claims of a token that may be checked. One that is not of the kind that it should be is the same
    as one that is not there. -/
structure Claims where
  /-- The second at which the token expires. -/
  expiry : Option Nat
  issuer : Option Names
  audience : Option Names

/-- The claims that may be asked for. -/
inductive Claim where
  | expiry
  | issuer
  | audience
  deriving DecidableEq

/-- `true` iff a claim is there. -/
def Claims.has (c : Claims) : Claim → Bool
  | .expiry => c.expiry.isSome
  | .issuer => c.issuer.isSome
  | .audience => c.audience.isSome

/-! ### Checks -/

/-- What is checked of a token. Of the options of the library, those are left out that have no effect
    unless they are set. -/
structure Validation where
  /-- The algorithms that are accepted. -/
  algorithms : List Algorithm
  /-- The claims that must be there. -/
  required : List Claim
  /-- For how many seconds an expired token is still taken. -/
  leeway : Nat
  checksExpiry : Bool
  checksAudience : Bool
  /-- The issuers of which a token may name one, if issuers are checked. -/
  issuers : Option (List String)
  /-- The audiences of which a token may name one. -/
  audiences : Option (List String)

/-- What is checked by default: that a token has not expired, which it must tell, and that it is for
    nobody else. -/
def Validation.ofAlgorithm (a : Algorithm) : Validation where
  algorithms := [a]
  required := [.expiry]
  leeway := 60
  checksExpiry := true
  checksAudience := true
  issuers := none
  audiences := none

/-- Why claims are refused. -/
inductive ClaimProblem where
  | missing (claim : Claim)
  | expired
  | foreignIssuer
  | foreignAudience
  deriving DecidableEq

/-- The name of a claim. -/
def Claim.name : Claim → String
  | expiry => "exp"
  | issuer => "iss"
  | audience => "aud"

/-- The wording of a problem. -/
def ClaimProblem.message : ClaimProblem → String
  | missing claim => "Missing required claim: " ++ claim.name
  | expired => "ExpiredSignature"
  | foreignIssuer => "InvalidIssuer"
  | foreignAudience => "InvalidAudience"

/-- Why a token is refused. -/
inductive Problem where
  | malformed
  | badEncoding
  | badJson
  | unacceptedAlgorithm
  | wrongKeyFamily
  | badSignature
  | badClaim (claim : ClaimProblem)
  /-- Any other reason of the library. -/
  | other (reason : String)
  deriving DecidableEq

/-- The wording of a problem. -/
def Problem.message : Problem → String
  | malformed => "InvalidToken"
  | badEncoding => "Base64 error"
  | badJson => "JSON error"
  | unacceptedAlgorithm => "InvalidAlgorithm"
  | wrongKeyFamily => "InvalidKeyFormat"
  | badSignature => "InvalidSignature"
  | badClaim c => c.message
  | other reason => reason

/-! ### The library -/

/-- The library that reads tokens and checks them. -/
structure Library where
  /-- The header of a token. -/
  header : String → Except Problem Header
  /-- The keys that a document describes, if it describes a set of keys. -/
  keySet? : (document : List UInt8) → Option (List Published)
  /-- The key that is published, unless it cannot be used. -/
  key? : Published → Option Key
  /-- Checks a token under a key at the given time. The payload of the token must also be one that the
      caller can read. -/
  decode : (reads : List UInt8 → Bool) → (token : String) → Key → Validation → (now : Nat) →
    Except Problem Unit

end Rebac.Token
