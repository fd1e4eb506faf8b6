import Rebac.Token.Basic
import Rebac.Token.Curve

namespace Rebac.Token

/-!
# Signatures

* `Algorithm.digest` is the digest of an algorithm.
* `Signature.verify` checks a signature under a key.
-/

/-- The digest of an algorithm. -/
def Algorithm.digest : Algorithm → Digest
  | hs256 | es256 | rs256 | ps256 => .d256
  | hs384 | es384 | rs384 | ps384 => .d384
  | hs512 | rs512 | ps512 | edDSA => .d512

namespace Signature

/-- The bytes that name a digest in front of its value. -/
def digestPrefix : Digest → List UInt8
  | .d256 => [0x30, 0x31, 0x30, 0x0d, 0x06, 0x09, 0x60, 0x86, 0x48, 0x01, 0x65, 0x03, 0x04, 0x02, 0x01,
      0x05, 0x00, 0x04, 0x20]
  | .d384 => [0x30, 0x41, 0x30, 0x0d, 0x06, 0x09, 0x60, 0x86, 0x48, 0x01, 0x65, 0x03, 0x04, 0x02, 0x02,
      0x05, 0x00, 0x04, 0x30]
  | .d512 => [0x30, 0x51, 0x30, 0x0d, 0x06, 0x09, 0x60, 0x86, 0x48, 0x01, 0x65, 0x03, 0x04, 0x02, 0x03,
      0x05, 0x00, 0x04, 0x40]

/-- The number of bytes that a number takes. -/
def byteSize (n : Nat) : Nat :=
  (n.log2 + 8) / 8

/-- The padded digest that a signature stands for. -/
def encodedDigest (d : Digest) (size : Nat) (message : List UInt8) : List UInt8 :=
  let tail := digestPrefix d ++ d.hash message
  0x00 :: 0x01 :: List.replicate (size - tail.length - 3) 0xff ++ 0x00 :: tail

/-- A mask of at least `size` bytes, from `count` blocks. -/
def mask (d : Digest) (seed : List UInt8) : Nat → List UInt8
  | 0 => []
  | count + 1 => mask d seed count ++ d.hash (seed ++ bigEndian 4 count)

/-- Checks the salted padding of a digest; the salt is as long as the digest. -/
def saltedDigest (d : Digest) (bits : Nat) (message encoded : List UInt8) : Bool :=
  let size := (bits + 7) / 8
  let split := size - d.size - 1
  let masked := encoded.take split
  let h := (encoded.drop split).take d.size
  let spare := 8 * size - bits
  let block := (masked.zip (mask d h (split / d.size + 1))).map fun (a, b) => a ^^^ b
  let block := match block with
    | first :: rest => UInt8.ofNat (first.toNat % 2 ^ (8 - spare)) :: rest
    | [] => []
  let zeros := split - d.size - 1
  let salt := block.drop (zeros + 1)
  2 * d.size + 2 ≤ size && encoded.length = size && encoded.getLast? = some 0xbc
    && masked.head?.all (fun b => b.toNat < 2 ^ (8 - spare))
    && block.take zeros = List.replicate zeros 0 && block[zeros]? = some 1
    && d.hash (List.replicate 8 0 ++ d.hash message ++ salt) = h

/-- `true` iff a modulus and an exponent are taken for a key: neither is even, and both are within
    their bounds. -/
def isModulusKey (n e : Nat) : Bool :=
  n.log2 < 4096 && n % 2 = 1 && e % 2 = 1 && 3 ≤ e && e < n && e < 2 ^ 33

/-- Checks a signature by the padded digest. -/
def paddedModulus (d : Digest) (n e : Nat) (message signature : List UInt8) : Bool :=
  let size := byteSize n
  isModulusKey n e && signature.length = size && ofBigEndian signature < n
    && (digestPrefix d).length + d.size + 11 ≤ size
    && bigEndian size (powMod n (ofBigEndian signature) e) = encodedDigest d size message

/-- Checks a signature by the salted digest. -/
def saltedModulus (d : Digest) (n e : Nat) (message signature : List UInt8) : Bool :=
  let bits := n.log2
  isModulusKey n e && signature.length = byteSize n && ofBigEndian signature < n
    && saltedDigest d bits message
      (bigEndian ((bits + 7) / 8) (powMod n (ofBigEndian signature) e))

/-- Checks a signature of two numbers under a point, given by its two coordinates. -/
def onCurve (c : Curve) (d : Digest) (coordinates message signature : List UInt8) : Bool :=
  coordinates.length = 2 * c.size && signature.length = 2 * c.size
    && c.verify (ofBigEndian (coordinates.take c.size)) (ofBigEndian (coordinates.drop c.size))
      (ofBigEndian (d.hash message))
      (ofBigEndian (signature.take c.size)) (ofBigEndian (signature.drop c.size))

/-- Checks the signature of a message under a key. A key of another family accepts nothing. -/
def verify (a : Algorithm) (key : Key) (message signature : List UInt8) : Bool :=
  match a, key with
  | .hs256, .secret k | .hs384, .secret k | .hs512, .secret k => a.digest.mac k message = signature
  | .rs256, .rsa n e | .rs384, .rsa n e | .rs512, .rsa n e =>
    paddedModulus a.digest n e message signature
  | .ps256, .rsa n e | .ps384, .rsa n e | .ps512, .rsa n e =>
    saltedModulus a.digest n e message signature
  | .es256, .ec point => onCurve .p256 a.digest point message signature
  | .es384, .ec point => onCurve .p384 a.digest point message signature
  | .edDSA, .ed point => Edwards.verify point message signature
  | _, _ => false

end Signature

end Rebac.Token
