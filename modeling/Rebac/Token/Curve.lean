import Rebac.Token.Digest

namespace Rebac.Token

/-!
# Points on curves

The arithmetic behind the public-key signatures, in natural numbers.

* `powMod` and `inverse` are powers and inverses modulo a number.
* `Curve` is a curve `y² = x³ + a·x + b`, `Curve.verify` checks a signature by a point on it.
* `Edwards` is the curve `-x² + y² = 1 + d·x²·y²` over the integers modulo `2 ^ 255 - 19`, with
  `Edwards.verify`.
-/

/-- `b ^ e` modulo `m`. -/
def powMod (m b e : Nat) : Nat :=
  if e = 0 then 1 % m
  else
    let half := powMod m (b * b % m) (e / 2)
    if e % 2 = 1 then b * half % m else half
termination_by e

/-- The inverse of `a` modulo a prime. -/
def inverse (p a : Nat) : Nat :=
  powMod p a (p - 2)

/-- The difference of two numbers modulo `m`. -/
def subMod (m a b : Nat) : Nat :=
  (a % m + (m - b % m)) % m

/-! ### Short curves -/

/-- A curve over the integers modulo `p` with a point of prime order. -/
structure Curve where
  p : Nat
  a : Nat
  b : Nat
  order : Nat
  base : Nat × Nat
  /-- The size of a number modulo the order, in bytes. -/
  size : Nat

namespace Curve

/-- A point, `none` for the neutral one. -/
abbrev Point := Option (Nat × Nat)

/-- `true` iff the coordinates belong to the curve. -/
def contains (c : Curve) (x y : Nat) : Bool :=
  x < c.p && y < c.p && y * y % c.p = (x * x % c.p * x + c.a * x + c.b) % c.p

/-- The third point of the line of that slope through a point, reflected. -/
def reflected (c : Curve) (slope x₁ y₁ x₂ : Nat) : Point :=
  let x := subMod c.p (subMod c.p (slope * slope) x₁) x₂
  some (x, subMod c.p (slope * subMod c.p x₁ x) y₁)

/-- The sum of two points. -/
def add (c : Curve) : Point → Point → Point
  | none, q => q
  | q, none => q
  | some (x₁, y₁), some (x₂, y₂) =>
    if x₁ = x₂ then
      if (y₁ + y₂) % c.p = 0 then none
      else c.reflected ((3 * x₁ * x₁ + c.a) * inverse c.p (2 * y₁) % c.p) x₁ y₁ x₂
    else c.reflected (subMod c.p y₂ y₁ * inverse c.p (subMod c.p x₂ x₁) % c.p) x₁ y₁ x₂

/-- The `n`-fold of a point. -/
def scale (c : Curve) (n : Nat) (q : Point) : Point :=
  if n = 0 then none
  else
    let half := c.scale (n / 2) (c.add q q)
    if n % 2 = 1 then c.add q half else half
termination_by n

/-- Checks a signature of a digest by the owner of a point. -/
def verify (c : Curve) (x y digest r s : Nat) : Bool :=
  if c.contains x y && 0 < r && r < c.order && 0 < s && s < c.order then
    let w := inverse c.order s
    match c.add (c.scale (digest * w % c.order) (some c.base))
        (c.scale (r * w % c.order) (some (x, y))) with
    | some (rx, _) => rx % c.order = r
    | none => false
  else false

/-- The curve `P-256`. -/
def p256 : Curve where
  p := 2 ^ 256 - 2 ^ 224 + 2 ^ 192 + 2 ^ 96 - 1
  a := 2 ^ 256 - 2 ^ 224 + 2 ^ 192 + 2 ^ 96 - 4
  b := 0x5ac635d8aa3a93e7b3ebbd55769886bc651d06b0cc53b0f63bce3c3e27d2604b
  order := 0xffffffff00000000ffffffffffffffffbce6faada7179e84f3b9cac2fc632551
  base := (0x6b17d1f2e12c4247f8bce6e563a440f277037d812deb33a0f4a13945d898c296,
    0x4fe342e2fe1a7f9b8ee7eb4a7c0f9e162bce33576b315ececbb6406837bf51f5)
  size := 32

/-- The curve `P-384`. -/
def p384 : Curve where
  p := 2 ^ 384 - 2 ^ 128 - 2 ^ 96 + 2 ^ 32 - 1
  a := 2 ^ 384 - 2 ^ 128 - 2 ^ 96 + 2 ^ 32 - 4
  b := 0xb3312fa7e23ee7e4988e056be3f82d19181d9c6efe8141120314088f5013875ac656398d8a2ed19d2a85c8edd3ec2aef
  order := 0xffffffffffffffffffffffffffffffffffffffffffffffffc7634d81f4372ddf581a0db248b0a77aecec196accc52973
  base := (
    0xaa87ca22be8b05378eb1c71ef320ad746e1d3b628ba79b9859f741e082542a385502f25dbf55296c3a545e3872760ab7,
    0x3617de4a96262c6f5d9e98bf9292dc29f8f41dbd289a147ce9da3113b5f0b8c00a60b1ce1d7e819d7a431d7c90ea0e5f)
  size := 48

end Curve

/-! ### The twisted curve -/

namespace Edwards

/-- The prime of the coordinates. -/
def p : Nat := 2 ^ 255 - 19

/-- The order of the base point. -/
def order : Nat := 2 ^ 252 + 27742317777372353535851937790883648493

/-- The coefficient of the curve. -/
def d : Nat := subMod p 0 (121665 * inverse p 121666)

/-- The root of minus one. -/
def imaginary : Nat := powMod p 2 ((p - 1) / 4)

/-- The sum of two points. -/
def add (a b : Nat × Nat) : Nat × Nat :=
  let product := d * (a.1 * b.1 % p) % p * (a.2 * b.2 % p) % p
  ((a.1 * b.2 + b.1 * a.2) * inverse p (1 + product) % p,
    (a.2 * b.2 + a.1 * b.1) * inverse p (subMod p 1 product) % p)

/-- The `n`-fold of a point. -/
def scale (n : Nat) (q : Nat × Nat) : Nat × Nat :=
  if n = 0 then (0, 1)
  else
    let half := scale (n / 2) (add q q)
    if n % 2 = 1 then add q half else half
termination_by n

/-- The point with a given second coordinate and parity of the first. -/
def recover? (y parity : Nat) : Option (Nat × Nat) :=
  let u := subMod p (y * y) 1
  let v := (d * (y * y % p) + 1) % p
  let square := u * inverse p v % p
  let candidate := powMod p square ((p + 3) / 8)
  let x :=
    if candidate * candidate % p = square then some candidate
    else
      let other := candidate * imaginary % p
      if other * other % p = square then some other else none
  x.bind fun x =>
    if x = 0 && parity = 1 then none
    else some (if x % 2 = parity then x else p - x, y % p)

/-- The number of a byte sequence, the lowest byte first. -/
def ofLittleEndian (bs : List UInt8) : Nat :=
  ofBigEndian bs.reverse

/-- The point that 32 bytes stand for. -/
def ofBytes? (bs : List UInt8) : Option (Nat × Nat) :=
  if bs.length = 32 then
    let n := ofLittleEndian bs
    recover? (n % 2 ^ 255) (n / 2 ^ 255)
  else none

/-- The 32 bytes of a point. -/
def toBytes (q : Nat × Nat) : List UInt8 :=
  (bigEndian 32 (q.2 + q.1 % 2 * 2 ^ 255)).reverse

/-- The base point. -/
def base? : Option (Nat × Nat) :=
  recover? (4 * inverse p 5 % p) 0

/-- Checks a signature of a message under a key of 32 bytes. -/
def verify (key message signature : List UInt8) : Bool :=
  let r := signature.take 32
  let s := ofLittleEndian (signature.drop 32)
  match ofBytes? key, base? with
  | some a, some base =>
    let k := ofLittleEndian (Digest.d512.hash (r ++ key ++ message)) % order
    signature.length = 64 && s < order
      && toBytes (add (scale s base) (scale k (p - a.1, a.2))) = r
  | _, _ => false

end Edwards

end Rebac.Token
