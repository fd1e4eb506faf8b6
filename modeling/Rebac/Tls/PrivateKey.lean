import Rebac.Tls.Der
import Rebac.Token.Curve

namespace Rebac.Tls

open Rebac.Token

/-!
# Private keys

A private key comes in its own form or in the general form that names its kind. What is read is
checked: the parts of a key have to fit each other.

* `PrivateKey.publicKey?` is the description of the public key of a private key, as a certificate
  has it.
-/

/-- The forms of a private key. -/
inductive KeyForm where
  | general
  | rsa
  | ec

namespace PrivateKey

open Der

/-! ### Descriptions of public keys -/

/-- The identifier of `RSA` keys. -/
def rsaId : List UInt8 := [0x2a, 0x86, 0x48, 0x86, 0xf7, 0x0d, 0x01, 0x01, 0x01]

/-- The identifier of keys on short curves. -/
def ecId : List UInt8 := [0x2a, 0x86, 0x48, 0xce, 0x3d, 0x02, 0x01]

/-- The identifier of keys on the twisted curve. -/
def edId : List UInt8 := [0x2b, 0x65, 0x70]

/-- The curve `P-521`. -/
def p521 : Curve where
  p := 2 ^ 521 - 1
  a := 2 ^ 521 - 4
  b := 0x051953eb9618e1c9a1f929a21a0b68540eea2da725b99b315f3b8b489918ef109e156193951ec7e937b1652c0bd3bb1bf073573df883d2c34f1ef451fd46b503f00
  order := 0x1fffffffffffffffffffffffffffffffffffffffffffffffffffffffffffffffffffa51868783bf2f966b7fcc0148f709a5d03bb5c9b8899c47aebb6fb71e91386409
  base := (
    0x0c6858e06b70404e9cd9e3ecb662395b4429c648139053fb521f828af606b4d3dbaa14b5e77efe75928fe1dc127a2ffa8de3348b3c1856a429bf97e7e31c2e5bd66,
    0x11839296a789a3bc0045c8a5fb42c7d1bd998f54449579b446817afbd17273e662c97ee72995ef42640c550b9013fad0761353c7086a272c24088be94769fd16650)
  size := 66

/-- The curves of keys, with their identifiers. -/
def curves : List (List UInt8 × Curve) := [
  ([0x2a, 0x86, 0x48, 0xce, 0x3d, 0x03, 0x01, 0x07], .p256),
  ([0x2b, 0x81, 0x04, 0x00, 0x22], .p384),
  ([0x2b, 0x81, 0x04, 0x00, 0x23], p521)]

/-- The description of a public key: its kind with parameters, and its bytes. -/
def description (id parameters key : List UInt8) : List UInt8 :=
  wrap .sequence (wrap .identifier id ++ parameters) ++ wrap .bitString (0 :: key)

/-! ### Keys on short curves -/

/-- The ways to write a point: both numbers, or the first one with the parity of the second. -/
def pointForms (c : Curve) (x y : Nat) : List (List UInt8) :=
  let size := (c.p.log2 + 8) / 8
  [0x04 :: bigEndian size x ++ bigEndian size y, UInt8.ofNat (2 + y % 2) :: bigEndian size x]

/-- Reads a key on a curve. `named?` is the curve that the general form names. -/
def ecKey (named? : Option (List UInt8)) : Reader (List UInt8) := do
  let (secret, stated?, point?) ← within .sequence do
    let version ← natural
    let secret ← expect .octetString
    let stated? ← optional? .part0 (expect .identifier)
    let point? ← optional? .part1 wholeBits
    if version = 1 then pure (secret, stated?, point?) else failure
  let id ← match named?, stated? with
    | some a, some b => if a = b then pure a else failure
    | some a, none | none, some a => pure a
    | none, none => failure
  match curves.lookup id with
  | none => failure
  | some c =>
    let n := ofBigEndian secret
    match if 0 < n && n < c.order then c.scale n (some c.base) else none with
    | none => failure
    | some (x, y) =>
      let forms := pointForms c x y
      if point?.all forms.contains then
        pure (description ecId (wrap .identifier id) (forms.headD []))
      else failure

/-! ### Keys with a modulus -/

/-- `true` iff the numbers of a key fit each other: the modulus is the product of the two factors, and
    the exponents are inverse to each other. -/
def fits (n e d p q dp dq inv : Nat) : Bool :=
  n = p * q && 1 < p && 1 < q && e % 2 = 1 && 1 < e && e.log2 < 33
    && d * e % (p - 1) = 1 % (p - 1) && d * e % (q - 1) = 1 % (q - 1)
    && dp = d % (p - 1) && dq = d % (q - 1) && inv < p && inv * q % p = 1

/-- Reads a key with a modulus of 2048 to 8192 bits. -/
def rsaKey : Reader (List UInt8) := within .sequence do
  let version ← natural
  let n ← natural
  let e ← natural
  let d ← natural
  let p ← natural
  let q ← natural
  let dp ← natural
  let dq ← natural
  let inv ← natural
  if version = 0 && fits n e d p q dp dq inv && 2048 ≤ n.log2 + 1 && n.log2 < 8192 then
    pure (description rsaId [0x05, 0x00] (wrap .sequence (naturalBytes n ++ naturalBytes e)))
  else failure

/-! ### Keys on the twisted curve -/

/-- The public key of a seed. -/
def edPoint? (seed : List UInt8) : Option (List UInt8) :=
  if seed.length = 32 then do
    let base ← Edwards.base?
    let n := Edwards.ofLittleEndian ((Digest.d512.hash seed).take 32)
    let scalar := n % 2 ^ 254 / 8 * 8 + 2 ^ 254
    some (Edwards.toBytes (Edwards.scale scalar base))
  else none

/-- Reads a key on the twisted curve, given the public key that the general form has. -/
def edKey (stated? : Option (List UInt8)) : Reader (List UInt8) := do
  let seed ← expect .octetString
  match edPoint? seed with
  | none => failure
  | some point =>
    if stated?.all (· = point) then pure (description edId [] point) else failure

/-! ### All keys -/

/-- Reads a key in the general form. -/
def generalKey : Reader (List UInt8) := do
  let (algorithm, key, point?) ← within .sequence do
    let version ← natural
    let algorithm ← expect .sequence
    let key ← expect .octetString
    let _ ← optional? .part0 remaining
    let point? ← publicPart
    if version ≤ 1 then pure (algorithm, key, point?) else failure
  let result : Option (List UInt8) := do
    let (id, parameters) ← expect .identifier algorithm
    if id = rsaId then
      if parameters = [0x05, 0x00] then readAll rsaKey key else none
    else if id = ecId then
      let named ← readAll (expect .identifier) parameters
      readAll (ecKey (some named)) key
    else if id = edId && parameters.isEmpty then readAll (edKey point?) key
    else none
  match result with
  | some found => pure found
  | none => failure
where
  /-- The bytes of the public key at the end of the general form. -/
  publicPart : Reader (Option (List UInt8)) := do
    if (← get).head? = some 0x81 then
      match next? (← get) with
      | some (_, 0 :: point, rest) =>
        set rest
        pure (some point)
      | _ => failure
    else pure none

/-- The description of the public key of a private key. -/
def publicKey? (form : KeyForm) (bytes : List UInt8) : Option (List UInt8) :=
  match form with
  | .general => readAll generalKey bytes
  | .rsa => readAll rsaKey bytes
  | .ec => readAll (ecKey none) bytes

end PrivateKey

end Rebac.Tls
