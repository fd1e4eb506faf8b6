import Rebac.Token.Digest

namespace Rebac.Tls

open Rebac.Token

/-!
# Distinguished encoding

A value is a tag, a length in its shortest form and that many bytes; some values hold further values.
A reader takes values from the front of a byte sequence.

* `Der.next?` splits the first value off.
* `Der.expect`, `Der.optional?`, `Der.within` read values with a known tag.
-/

namespace Der

/-- The tags in use. -/
inductive Tag where
  | boolean
  | integer
  | bitString
  | octetString
  | identifier
  | sequence
  /-- The tag of an optional part of a structure that holds further values. -/
  | part (index : Fin 4)
  deriving DecidableEq

/-- The first optional part of a structure. -/
def Tag.part0 : Tag := .part 0

/-- The second optional part of a structure. -/
def Tag.part1 : Tag := .part 1

/-- The fourth optional part of a structure. -/
def Tag.part3 : Tag := .part 3

/-- The byte of a tag. -/
def Tag.byte : Tag → UInt8
  | boolean => 0x01
  | integer => 0x02
  | bitString => 0x03
  | octetString => 0x04
  | identifier => 0x06
  | sequence => 0x30
  | part i => UInt8.ofNat (0xa0 + i)

/-- A length in its shortest form, and what follows it. -/
def length? : List UInt8 → Option (Nat × List UInt8)
  | [] => none
  | b :: rest =>
    let n := b.toNat
    if n < 0x80 then some (n, rest)
    else
      let count := n - 0x80
      let digits := rest.take count
      let value := ofBigEndian digits
      if 1 ≤ count && count ≤ 4 && digits.length = count
        && (if count = 1 then 0x80 ≤ value else 256 ^ (count - 1) ≤ value) then
        some (value, rest.drop count)
      else none

/-- The tag and the content of the first value, and what follows it. Tags take one byte. -/
def next? : List UInt8 → Option (UInt8 × List UInt8 × List UInt8)
  | [] => none
  | tag :: rest => do
    let (size, rest) ← length? rest
    if tag.toNat % 32 ≠ 31 && size ≤ rest.length then some (tag, rest.take size, rest.drop size)
    else none

/-- The bytes of a value. -/
def wrap (tag : Tag) (content : List UInt8) : List UInt8 :=
  let n := content.length
  let size := if n < 0x80 then [UInt8.ofNat n]
    else if n < 0x100 then [0x81, UInt8.ofNat n]
    else 0x82 :: bigEndian 2 n
  tag.byte :: size ++ content

/-- A reader of values. -/
abbrev Reader (α : Type) := StateT (List UInt8) Option α

/-- Reads the content of a value with a known tag. -/
def expect (tag : Tag) : Reader (List UInt8) := fun bs =>
  match next? bs with
  | some (t, content, rest) => if t = tag.byte then some (content, rest) else none
  | none => none

/-- Succeeds if nothing is left. -/
def finish : Reader Unit := fun bs =>
  if bs.isEmpty then some ((), []) else none

/-- Reads all of a byte sequence. -/
def readAll {α : Type} (r : Reader α) (bs : List UInt8) : Option α :=
  match r bs with
  | some (a, []) => some a
  | _ => none

/-- Reads the values that a value holds. -/
def within {α : Type} (tag : Tag) (r : Reader α) : Reader α := do
  let content ← expect tag
  match readAll r content with
  | some a => pure a
  | none => failure

/-- `true` iff the next value has that tag. -/
def nextIs (tag : Tag) : Reader Bool := fun bs =>
  some (bs.head? = some tag.byte, bs)

/-- Reads a value if it has that tag. -/
def optional? {α : Type} (tag : Tag) (r : Reader α) : Reader (Option α) := do
  if ← nextIs tag then
    let a ← within tag r
    pure (some a)
  else pure none

/-- Takes all bytes that are left. -/
def remaining : Reader (List UInt8) := fun bs => some (bs, [])

/-- Reads a number that is not negative, in its shortest form. -/
def natural : Reader Nat := do
  match ← expect .integer with
  | [] => failure
  | [b] => if b.toNat < 0x80 then pure b.toNat else failure
  | b :: c :: rest =>
    if b.toNat < 0x80 && (b ≠ 0 || 0x80 ≤ c.toNat) then pure (ofBigEndian (b :: c :: rest))
    else failure

/-- Reads a sequence of bits that fills its bytes. -/
def wholeBits : Reader (List UInt8) := do
  match ← expect .bitString with
  | 0 :: content => pure content
  | _ => failure

/-- The bytes of a number that is not negative. -/
def naturalBytes (n : Nat) : List UInt8 :=
  wrap .integer (bigEndian (n.log2 / 8 + if n.log2 % 8 = 7 then 2 else 1) n)

end Der

end Rebac.Tls
