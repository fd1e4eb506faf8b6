import Rebac.Config.Settings
import Rebac.Http.Fetch
import Rebac.Json.Members
import Rebac.Json.Reader
import Rebac.Status
import Rebac.Token.KeySet

namespace Rebac.Credential

open Rebac.Json Rebac.Token

/-!
# Tokens of an issuer

An issuer publishes a discovery document, which names the issuer and the address of its key set. The
key set is fetched once at the start and again when a token names a key that is not in it.

* `Issuer.discover` is an issuer from settings and the answers of its pages.
* `Issuer.refresh` takes over a newly fetched key set.
* `Issuer.validate` checks a token, with at most one refresh.
-/

/-- An issuer whose tokens are accepted. -/
structure Issuer where
  /-- What reads and checks tokens. -/
  library : Library
  /-- The URL of the issuer without slashes at its end. -/
  name : String
  /-- The audience that a token must name, if it names any; empty for any. -/
  audience : String
  /-- The accepted algorithms. -/
  algorithms : List Algorithm
  /-- The address of the key set. -/
  keysUrl : String
  /-- The key set as it was last fetched. -/
  keys : KeySet

/-- Why an issuer cannot be used: its settings, or what its pages answer. -/
inductive IssuerError where
  | noIssuer
  | unsupported (method : String)
  | noMethods
  | discovery (issuer reason : String)
  deriving DecidableEq

/-- What is wrong with the settings; the wording of a failed discovery is its reason. -/
def IssuerError.message : IssuerError → String
  | noIssuer => "oidc issuer is required"
  | unsupported method => "unsupported oidc algorithm " ++ Text.quoted method
  | noMethods => "oidc valid_methods must not be empty"
  | discovery _ reason => reason

/-- What follows the issuer in the address of its discovery document. -/
def discoveryPath : String := "/.well-known/openid-configuration"

/-- A URL without the slashes at its end. -/
def withoutSlashes (url : String) : String :=
  Text.dropEndWhile (· = '/') url

/-- The address of the discovery document of an issuer. -/
def discoveryUrl (issuer : String) : String :=
  withoutSlashes issuer ++ discoveryPath

/-- The algorithms of the given names; the first name without an algorithm is reported. -/
def algorithms : List String → Except IssuerError (List Algorithm)
  | [] => .ok []
  | m :: rest =>
    match Algorithm.ofName? m with
    | some a => (algorithms rest).map (a :: ·)
    | none => .error (.unsupported m)

/-- What a discovery document names. -/
structure Discovery where
  issuer : String
  keysUrl : String
  deriving DecidableEq

/-- The discovery document that a text describes: an object in which either member stands once, or a
    list of the two. -/
def Discovery.ofNode? (n : Node) : Option Discovery :=
  match n.members?, n.items? with
  | some members, _ => do
    some ⟨← textMember? "issuer" members, ← textMember? "jwks_uri" members⟩
  | none, some [issuer, keysUrl] => do some ⟨← issuer.text?, ← keysUrl.text?⟩
  | none, _ => none

/-- The discovery document of an exchange, or why there is none. -/
def discoveryOf (address : String) (e : Http.Exchange) : Except String Discovery :=
  match Http.body address e with
  | .error err => .error err.message
  | .ok bytes =>
    match (Document.ofBytes bytes).whole?.bind Discovery.ofNode? with
    | some d => .ok d
    | none => .error ("malformed discovery document: " ++ Http.FetchError.badBody.message)

/-- The key set of an exchange, or why there is none. -/
def keysOf (l : Library) (address : String) (e : Http.Exchange) : Except String KeySet :=
  match Http.body address e with
  | .error err => .error ("key set fetch failed: " ++ err.message)
  | .ok bytes =>
    match l.keySet? bytes with
    | some published => .ok (.ofPublished l published)
    | none => .error ("malformed key set: " ++ Http.FetchError.badBody.message)

/-- `true` iff the claims of a payload can be read: it is an object in which the subject stands once at
    most, and is a text if it is there, or it is the list of the subject. -/
def readsSubject (payload : List UInt8) : Bool :=
  match (Document.ofBytes payload).whole? with
  | none => false
  | some n =>
    match n.members?, n.items? with
    | some members, _ => (sole? "sub" members).any fun subject => (optionalText? subject).isSome
    | none, some [subject] => (optionalText? (some subject)).isSome
    | none, _ => false

/-- The reason of a document that names another issuer. -/
def foreignIssuer (named : String) : String :=
  "discovery document names issuer " ++ Text.quoted named

/-- The methods of settings that can be used. -/
def usableMethods (s : Config.Oidc) : Except IssuerError (List Algorithm) :=
  if s.issuer.isEmpty then .error .noIssuer
  else do
    let methods ← algorithms s.validMethods
    if methods.isEmpty then .error .noMethods else .ok methods

namespace Issuer

/-- The issuer of settings. `document` is what came of asking for the discovery document, `keySet`
    tells for an address what came of asking for the key set there. -/
def discover (l : Library) (s : Config.Oidc) (document : Http.Exchange)
    (keySet : String → Http.Exchange) : Except IssuerError Issuer := do
  let methods ← usableMethods s
  let name := withoutSlashes s.issuer
  let failed : String → IssuerError := .discovery name
  let found ← (discoveryOf (discoveryUrl s.issuer) document).mapError failed
  if withoutSlashes found.issuer ≠ name then .error (failed (foreignIssuer found.issuer))
  else do
    let keys ← (keysOf l found.keysUrl (keySet found.keysUrl)).mapError failed
    .ok ⟨l, name, s.audience, methods, found.keysUrl, keys⟩

/-- The issuer after its key set was fetched again; a failed fetch changes nothing. -/
def refresh (i : Issuer) (e : Http.Exchange) : Issuer :=
  match keysOf i.library i.keysUrl e with
  | .ok keys => { i with keys := keys }
  | .error _ => i

/-- What is checked of a token that is signed with the algorithm: beside what is checked by default, that
    it is of this issuer, and its audience if there is one for it. -/
def validation (i : Issuer) (a : Algorithm) : Validation :=
  { Validation.ofAlgorithm a with
    issuers := some [i.name]
    checksAudience := !i.audience.isEmpty
    audiences := if i.audience.isEmpty then none else some [i.audience] }

/-- The refusal of a token whose algorithm is not accepted. -/
def unaccepted (a : Algorithm) : Refusal :=
  .invalidToken s!"algorithm {a.name} is not accepted"

/-- The header of a token, if its algorithm is accepted. -/
def acceptedHeader (i : Issuer) (token : String) : Except Refusal Token.Header := do
  let header ← (i.library.header token).mapError fun p => .invalidToken p.message
  if header.algorithm ∈ i.algorithms then .ok header
  else .error (unaccepted header.algorithm)

/-- What checking a token has come to, and the issuer afterwards. -/
structure Attempt where
  result : Except Refusal Unit
  issuer : Issuer
  /-- Whether the key set was fetched. -/
  fetched : Bool

/-- Checks a token with the given algorithm under a key. -/
def judge (i : Issuer) (now : Nat) (token : String) (a : Algorithm) (key : Token.Key) :
    Except Refusal Unit :=
  (i.library.decode readsSubject token key (i.validation a) now).mapError fun p =>
    .invalidToken p.message

/-- Checks a token at the given time. `keySet` is what comes of asking for the key set, which is done
    only if the key of the token is not known. -/
def validate (i : Issuer) (now : Nat) (keySet : Http.Exchange) (token : String) : Attempt :=
  match i.acceptedHeader token with
  | .error refusal => ⟨.error refusal, i, false⟩
  | .ok header =>
    let name := header.askedName
    match i.keys.resolve? name with
    | some key => ⟨i.judge now token header.algorithm key, i, false⟩
    | none =>
      let i := i.refresh keySet
      match i.keys.resolve? name with
      | some key => ⟨i.judge now token header.algorithm key, i, true⟩
      | none => ⟨.error (.unknownKey name), i, true⟩

end Issuer

end Rebac.Credential
