import Rebac.Json.Members
import Rebac.Json.Reader
import Rebac.Token.Base64
import Rebac.Token.Basic
import Rebac.Token.Digest

namespace Rebac.Token

open Rebac.Json

/-!
# Reading headers, keys and claims

What a token says, and what an issuer publishes, are JSON texts. A field that is known stands in its
object once at most and must be of its kind; a member that is not known is skipped.

* `Header.ofNode?` — the header of a token.
* `Published.ofNode?`, `publishedKeys?` — a key, and the keys of a set; `Published.decode?` decodes the
  parts of a key.
* `Claims.ofNode?` — the claims of a token. A claim of an unexpected kind counts as absent, if the text
  can be read on after it.
-/

/-! ### Fields -/

/-- `true` iff the value is a text that can be read. -/
def isText (n : Node) : Bool :=
  n.text?.isSome

/-- `true` iff the value is a list of texts. -/
def isTexts (n : Node) : Bool :=
  n.items?.any fun items => items.all isText

/-- `true` iff a field stands in an object once at most, and its value is nothing or of its kind. -/
def isOptional (kind : Node → Bool) (members : List (String × Node)) (name : String) : Bool :=
  match sole? name members with
  | none => false
  | some none | some (some .null) => true
  | some (some n) => kind n

/-- The text of an optional field. -/
def optionalMember? (name : String) (members : List (String × Node)) : Option (Option String) :=
  (sole? name members).bind optionalText?

/-! ### Keys -/

/-- The curves that a key may name. -/
def curveNames : List String := ["P-256", "P-384", "P-521", "Ed25519"]

/-- `true` iff the members name a curve. -/
def namesCurve (members : List (String × Node)) : Bool :=
  (textMember? "crv" members).any curveNames.contains

/-- The parts of a key by its kind. -/
def Material.ofMembers? (members : List (String × Node)) : Option Material := do
  match ← textMember? "kty" members with
  | "EC" =>
    if namesCurve members then some (.ec (← textMember? "x" members) (← textMember? "y" members))
    else none
  | "RSA" => some (.rsa (← textMember? "n" members) (← textMember? "e" members))
  | "oct" => some (.secret (← textMember? "k" members))
  | "OKP" => if namesCurve members then some (.ed (← textMember? "x" members)) else none
  | _ => none

/-- The key that an object describes. All of its members must be readable, since their kinds depend on
    one of them; `depth` is the number of levels that may be opened. -/
def Published.ofNode? (depth : Nat) (n : Node) : Option Published := do
  let _ ← (n.value? depth).toOption
  let members ← n.members?
  if ["use", "alg", "x5u", "x5t", "x5t#S256"].all (isOptional isText members)
    && ["key_ops", "x5c"].all (isOptional isTexts members) then
    some ⟨← optionalMember? "kid" members, ← Material.ofMembers? members⟩
  else none

/-- The keys of a set: an object with the list of the keys, or a list of this list alone. -/
def publishedKeys? (n : Node) : Option (List Published) := do
  let list ←
    match n.members?, n.items? with
    | some members, _ => (sole? "keys" members).join
    | none, some [list] => some list
    | none, _ => none
  (← list.items?).mapM (Published.ofNode? (depthLimit - 2))

/-- The bytes of an encoded part. -/
def partBytes? (s : String) : Option (List UInt8) :=
  base64? s.toList

/-- The key that is published, unless a part cannot be decoded. -/
def Published.decode? (p : Published) : Option Key := do
  match p.material with
  | .secret k => some (.secret (← partBytes? k))
  | .rsa n e => some (.rsa (ofBigEndian (← partBytes? n)) (ofBigEndian (← partBytes? e)))
  | .ec x y => some (.ec ((← partBytes? x) ++ (← partBytes? y)))
  | .ed x => some (.ed (← partBytes? x))

/-! ### Headers -/

/-- The fields of a header that are texts, beside the algorithm and the name of the key. -/
def headerTexts : List String :=
  ["typ", "cty", "jku", "x5u", "x5t", "x5t#S256", "url", "nonce"]

/-- The header that an object describes. -/
def Header.ofNode? (n : Node) : Option Header := do
  let members ← n.members?
  let algorithm ← (textMember? "alg" members).bind Algorithm.ofName?
  if headerTexts.all (isOptional isText members) && ["x5c", "crit"].all (isOptional isTexts members)
    && isOptional (fun n => (Published.ofNode? (depthLimit - 1) n).isSome) members "jwk" then
    some ⟨algorithm, ← optionalMember? "kid" members⟩
  else none

/-! ### Claims -/

/-- The nearest natural number of a finite double that is not negative, a half going up. -/
def nearestNat? (x : Float) : Option Nat :=
  if x.toBits.toNat / 2 ^ 63 = 1 && x != 0 then none
  else
    (Decimal.Binary.ofFloat? x).bind fun b =>
      let n :=
        if 0 ≤ b.exponent then b.significand * 2 ^ b.exponent.toNat
        else
          let unit := 2 ^ (-b.exponent).toNat
          (2 * b.significand + unit) / (2 * unit)
      if n < 2 ^ 64 then some n else none

/-- The seconds that a number gives, if it gives any. -/
def secondsOf : Number → Option Nat
  | .int i => if 0 ≤ i && i < 2 ^ 64 then some i.toNat else none
  | .float x => nearestNat? x

/-- A claim in seconds. After a container that is not empty the text cannot be read on. -/
def secondsClaim? : Option Node → Option (Option Nat)
  | some (.number n) => n.toOption.map secondsOf
  | some (.text t) => t.toOption.map fun _ => none
  | some (.array items _) => if items.isEmpty then some none else none
  | some (.object members _) => if members.isEmpty then some none else none
  | _ => some none

/-- The texts of a list that holds nothing else. -/
def allTexts? (items : List Value) : Option (List String) :=
  items.mapM fun
    | .text s => some s
    | _ => none

/-- A claim that should be a name or a list of names. -/
def namesClaim? : Option Node → Option (Option Names)
  | none => some none
  | some n => (n.value? (depthLimit - 1)).toOption.map fun
    | .text s => some (.one s)
    | .array items => (allTexts? items).map .several
    | _ => none

/-- `true` iff the text can be read on after this claim, which should be a text. -/
def passesText : Option Node → Bool
  | some (.number n) => n.isOk
  | some (.text t) => t.isOk
  | some (.array ..) | some (.object ..) => false
  | _ => true

/-- The claims that an object describes. -/
def Claims.ofNode? (n : Node) : Option Claims := do
  let members ← n.members?
  let _ ← (sole? "nbf" members).bind secondsClaim?
  if (sole? "sub" members).any passesText then
    some ⟨← (sole? "exp" members).bind secondsClaim?, ← (sole? "iss" members).bind namesClaim?,
      ← (sole? "aud" members).bind namesClaim?⟩
  else none

end Rebac.Token
