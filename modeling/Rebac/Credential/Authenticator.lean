import Rebac.Credential.Bearer
import Rebac.Credential.Issuer
import Rebac.Credential.Preshared
import Rebac.Failure

namespace Rebac.Credential

/-!
# Authentication

Credentials are checked in one of two ways, by preshared keys or as tokens of an issuer, or not at
all.

* `Strategy.ofSettings` is the way that settings choose, `Authenticator.select` sets it up.
* `Authenticator.validate` checks a credential.
-/

/-- How credentials are checked. -/
inductive Strategy where
  | disabled
  | preshared
  | oidc
  deriving DecidableEq

/-- The name of a strategy. -/
def Strategy.name : Strategy → String
  | disabled => "disabled"
  | preshared => "preshared"
  | oidc => "oidc"

/-- The way that settings choose. -/
def Strategy.ofSettings (s : Config.Authn) : Except Failure Strategy :=
  if !s.enabled then .ok disabled
  else if s.method = "preshared" then .ok preshared
  else if s.method = "oidc" then .ok oidc
  else .error (.unknownMethod s.method)

/-- The failure of an issuer that cannot be used. -/
def IssuerError.failure (e : IssuerError) : Failure :=
  match e with
  | .discovery issuer reason => .discovery issuer reason
  | e => .badCredentialSettings e.message

/-- What is known from outside while a credential is checked. -/
structure Moment where
  /-- The time in seconds. -/
  now : Nat
  /-- What comes of asking the issuer for its key set. -/
  keySet : Http.Exchange

/-- One who checks credentials. -/
inductive Authenticator where
  | preshared (keys : KeyList)
  | issuer (issuer : Issuer)

namespace Authenticator

/-- The strategy of an authenticator. -/
def strategy : Authenticator → Strategy
  | preshared _ => .preshared
  | issuer _ => .oidc

/-- Checks a credential; the keys of an issuer may be fetched on the way. -/
def validate (a : Authenticator) (m : Moment) (credential : String) :
    Except Refusal Unit × Authenticator :=
  match a with
  | preshared keys => (keys.validate credential, a)
  | issuer i =>
    let attempt := i.validate m.now m.keySet credential
    (attempt.result, issuer attempt.issuer)

/-- The authenticator that settings ask for, if any. `document` and `keySet` are the pages of the
    issuer, for the case that one is asked; its tokens are read and checked by the library. -/
def select (l : Token.Library) (s : Config.Authn) (document : Http.Exchange)
    (keySet : String → Http.Exchange) : Except Failure (Option Authenticator) := do
  match ← Strategy.ofSettings s with
  | .disabled => .ok none
  | .preshared =>
    match KeyList.ofKeys s.preshared.keys with
    | .ok keys => .ok (some (preshared keys))
    | .error e => .error (.badCredentialSettings e.message)
  | .oidc =>
    match Issuer.discover l s.oidc document keySet with
    | .ok i => .ok (some (issuer i))
    | .error e => .error e.failure

end Authenticator

end Rebac.Credential
