import Rebac.Power

namespace Rebac.Token

/-!
# Digests

The digests of 256, 384 and 512 bits that signatures are made of. Their constants are the first bits
of the fractional parts of the square and cube roots of the first primes.

* `Digest.hash` is the digest of a byte sequence.
* `Digest.mac` is the keyed digest.
-/

/-- The digests, by their size in bits. -/
inductive Digest where
  | d256
  | d384
  | d512
  deriving DecidableEq

/-- The bytes of a number, the highest first, in a field of the given size. -/
def bigEndian : Nat → Nat → List UInt8
  | 0, _ => []
  | size + 1, n => bigEndian size (n / 256) ++ [UInt8.ofNat n]

/-- The number of a byte sequence, the highest byte first. -/
def ofBigEndian (bs : List UInt8) : Nat :=
  bs.foldl (fun n b => n * 256 + b.toNat) 0

/-- The first primes. -/
def primes : List Nat :=
  (List.range 410).filter fun n => 2 ≤ n && (List.range n).all fun d => d < 2 || n % d ≠ 0

/-- The largest number below `2 ^ bits` whose power of the given degree is at most `n`. -/
def root (degree n : Nat) : Nat → Nat → Nat
  | 0, found => found
  | bits + 1, found =>
    let next := found + 2 ^ bits
    if next ^ degree ≤ n then root degree n bits next else root degree n bits found

/-- The first `width` bits of the fractional part of a root of a prime. -/
def rootBits (degree width p : Nat) : Nat :=
  root degree (p * 2 ^ (degree * width)) (width + 6) 0 % 2 ^ width

/-- What distinguishes the two word sizes: the rounds, the rotations and shifts, and the sizes. -/
structure WordSize where
  bits : Nat
  rounds : Nat
  bigSigmaA : Nat × Nat × Nat
  bigSigmaE : Nat × Nat × Nat
  smallSigma0 : Nat × Nat × Nat
  smallSigma1 : Nat × Nat × Nat

/-- Words of 32 bits. -/
def WordSize.w32 : WordSize :=
  ⟨32, 64, (2, 13, 22), (6, 11, 25), (7, 18, 3), (17, 19, 10)⟩

/-- Words of 64 bits. -/
def WordSize.w64 : WordSize :=
  ⟨64, 80, (28, 34, 39), (14, 18, 41), (1, 8, 7), (19, 61, 6)⟩

namespace WordSize

/-- Addition of words. -/
def add (w : WordSize) (a b : Nat) : Nat :=
  (a + b) % 2 ^ w.bits

/-- Rotation to the right. -/
def rotate (w : WordSize) (n : Nat) (a : Nat) : Nat :=
  (a >>> n) ||| ((a <<< (w.bits - n)) % 2 ^ w.bits)

/-- The complement of a word. -/
def complement (w : WordSize) (a : Nat) : Nat :=
  2 ^ w.bits - 1 - a

/-- Three rotations, mixed. -/
def bigSigma (w : WordSize) (s : Nat × Nat × Nat) (a : Nat) : Nat :=
  w.rotate s.1 a ^^^ w.rotate s.2.1 a ^^^ w.rotate s.2.2 a

/-- Two rotations and a shift, mixed. -/
def smallSigma (w : WordSize) (s : Nat × Nat × Nat) (a : Nat) : Nat :=
  w.rotate s.1 a ^^^ w.rotate s.2.1 a ^^^ (a >>> s.2.2)

/-- The constants of the rounds. -/
def constants (w : WordSize) : List Nat :=
  (primes.take w.rounds).map (rootBits 3 w.bits)

/-- The message of all rounds, the latest word first, from its first sixteen words. -/
def schedule (w : WordSize) : Nat → Array Nat → Array Nat
  | 0, words => words
  | n + 1, words =>
    let back := fun i => words.getD (words.size - i) 0
    let word := w.add (w.add (w.smallSigma w.smallSigma1 (back 2)) (back 7))
      (w.add (w.smallSigma w.smallSigma0 (back 15)) (back 16))
    w.schedule n (words.push word)

/-- One round over the eight words of the state. -/
def round (w : WordSize) (state : List Nat) (k m : Nat) : List Nat :=
  match state with
  | [a, b, c, d, e, f, g, h] =>
    let choice := (e &&& f) ^^^ (w.complement e &&& g)
    let majority := (a &&& b) ^^^ (a &&& c) ^^^ (b &&& c)
    let t1 := w.add (w.add h (w.bigSigma w.bigSigmaE e)) (w.add choice (w.add k m))
    let t2 := w.add (w.bigSigma w.bigSigmaA a) majority
    [w.add t1 t2, a, b, c, w.add d t1, e, f, g]
  | other => other

/-- The words of a byte sequence. -/
def words (w : WordSize) : Nat → List UInt8 → List Nat
  | 0, _ => []
  | n + 1, bs => ofBigEndian (bs.take (w.bits / 8)) :: w.words n (bs.drop (w.bits / 8))

/-- Takes a block of sixteen words into the state. -/
def compress (w : WordSize) (constants state : List Nat) (block : List UInt8) : List Nat :=
  let message := (w.schedule (w.rounds - 16) (w.words 16 block).toArray).toList
  let final := (constants.zip message).foldl (fun s (k, m) => w.round s k m) state
  (state.zip final).map fun (a, b) => w.add a b

/-- Takes `n` blocks into the state. -/
def compressAll (w : WordSize) (constants : List Nat) : Nat → List Nat → List UInt8 → List Nat
  | 0, state, _ => state
  | n + 1, state, bs =>
    w.compressAll constants n (w.compress constants state (bs.take (2 * w.bits)))
      (bs.drop (2 * w.bits))

/-- A byte sequence filled up to whole blocks: a one bit, zeros, and its length in bits. -/
def padded (w : WordSize) (bs : List UInt8) : List UInt8 :=
  let block := 2 * w.bits
  let field := w.bits / 4
  let zeros := (block - (bs.length + 1 + field) % block) % block
  bs ++ 0x80 :: List.replicate zeros 0 ++ bigEndian field (8 * bs.length)

/-- The state after a whole byte sequence. -/
def run (w : WordSize) (start : List Nat) (bs : List UInt8) : List Nat :=
  let message := w.padded bs
  w.compressAll w.constants (message.length / (2 * w.bits)) start message

end WordSize

namespace Digest

/-- The word size of a digest. -/
def wordSize : Digest → WordSize
  | d256 => .w32
  | d384 | d512 => .w64

/-- The state before the first block. -/
def start : Digest → List Nat
  | d256 => (primes.take 8).map (rootBits 2 32)
  | d512 => (primes.take 8).map (rootBits 2 64)
  | d384 => ((primes.drop 8).take 8).map (rootBits 2 64)

/-- The size of a digest in bytes. -/
def size : Digest → Nat
  | d256 => 32
  | d384 => 48
  | d512 => 64

/-- The size of a block in bytes. -/
def blockSize (d : Digest) : Nat :=
  2 * d.wordSize.bits

/-- The digest of a byte sequence. -/
def hash (d : Digest) (bs : List UInt8) : List UInt8 :=
  ((d.wordSize.run d.start bs).flatMap (bigEndian (d.wordSize.bits / 8))).take d.size

/-- The key of a keyed digest in a field of one block. -/
def blockKey (d : Digest) (key : List UInt8) : List UInt8 :=
  let short := if d.blockSize < key.length then d.hash key else key
  short ++ List.replicate (d.blockSize - short.length) 0

/-- The keyed digest of a byte sequence. -/
def mac (d : Digest) (key message : List UInt8) : List UInt8 :=
  let k := d.blockKey key
  d.hash (k.map (· ^^^ 0x5c) ++ d.hash (k.map (· ^^^ 0x36) ++ message))

end Digest

end Rebac.Token
