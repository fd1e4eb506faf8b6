import Rebac.Record.Shape
import Rebac.Json.Text

namespace Rebac.Record

/-!
# Records as bytes

The tagged wire format of the service. A record is a sequence of numbered fields, numbered from one
in the order of declaration; a field with its default is left out, a list is written item by item.

* `varint` and `varint?` write and read a number in groups of seven bits, the lowest first.
* `Payload` is the content of one numbered field, `fields?` cuts a byte sequence into them.
* `Fields.encode` and `Fields.merge` write a record and take one numbered field into it.
* `toWire` and `ofWire?` do the same for the structures of the library.
-/

/-- A byte sequence. -/
abbrev Bytes := List UInt8

/-! ### Numbers -/

/-- Writes a number in groups of seven bits, at most `groups + 1` of them. -/
def varintGroups : Nat → Nat → Bytes
  | 0, n => [UInt8.ofNat n]
  | groups + 1, n =>
    if n < 128 then [UInt8.ofNat n]
    else UInt8.ofNat (n % 128 + 128) :: varintGroups groups (n / 128)

/-- Writes a number of 64 bits. -/
def varint (n : Nat) : Bytes :=
  varintGroups 9 n

/-- Reads at most `groups + 1` groups of seven bits; the tenth byte of a number holds one bit. -/
def varintGroups? : Nat → Bytes → Option (Nat × Bytes)
  | _, [] => none
  | 0, b :: rest => if b < 2 then some (b.toNat, rest) else none
  | groups + 1, b :: rest =>
    if b < 128 then some (b.toNat, rest)
    else match varintGroups? groups rest with
      | some (n, rest) => some (n * 128 + (b.toNat - 128), rest)
      | none => none

/-- Reads a number of 64 bits. -/
def varint? (bs : Bytes) : Option (Nat × Bytes) :=
  varintGroups? 9 bs

/-! ### Numbered fields -/

/-- The content of a numbered field. Of a group only its presence is kept. -/
inductive Payload where
  | number (value : Nat)
  | bytes (value : Bytes)
  | fixed (size : Nat)
  | group
  deriving DecidableEq

/-- A numbered field. -/
abbrev NumberedField := Nat × Payload

/-- The head of a field: its number and the kind of its content. -/
def head? (bs : Bytes) : Option ((Nat × Nat) × Bytes) :=
  match varint? bs with
  | some (n, rest) =>
    if n < 2 ^ 32 ∧ n % 8 ≤ 5 ∧ 8 ≤ n then some ((n / 8, n % 8), rest) else none
  | none => none

/-- The first `n` bytes and the others. -/
def splitBytes? (n : Nat) (bs : Bytes) : Option (Bytes × Bytes) :=
  if n ≤ bs.length then some (bs.take n, bs.drop n) else none

/-- Reads the content of a field. A group runs to the end mark with its own number, and groups nest
    at most `depth` levels. The first argument bounds the number of fields inside groups. -/
def content? : Nat → Nat → Nat → Nat → Bytes → Option (Payload × Bytes)
  | _, 0, _, _, _ => none
  | _, _, _, 0, bs => (varint? bs).map fun (n, rest) => (.number n, rest)
  | _, _, _, 1, bs => (splitBytes? 8 bs).map fun (_, rest) => (.fixed 8, rest)
  | _, _, _, 2, bs => do
    let (n, rest) ← varint? bs
    let (content, rest) ← splitBytes? n rest
    some (.bytes content, rest)
  | _, _, _, 5, bs => (splitBytes? 4 bs).map fun (_, rest) => (.fixed 4, rest)
  | fuel + 1, depth + 1, number, 3, bs => do
    let ((inner, kind), rest) ← head? bs
    if kind = 4 then
      if inner = number then some (.group, rest) else none
    else do
      let (_, rest) ← content? fuel depth inner kind rest
      content? fuel (depth + 1) number 3 rest
  | _, _, _, _, _ => none

/-- How deep groups and records may be nested. -/
def nestingLimit : Nat := 100

/-- Cuts a byte sequence into at most `fuel` numbered fields. -/
def fieldsUpTo? (depth : Nat) : Nat → Bytes → Option (List NumberedField)
  | _, [] => some []
  | 0, _ :: _ => none
  | fuel + 1, b :: bs => do
    let ((number, kind), rest) ← head? (b :: bs)
    let (payload, rest) ← content? (rest.length + 1) depth number kind rest
    let more ← fieldsUpTo? depth fuel rest
    some ((number, payload) :: more)

/-- Cuts a byte sequence into its numbered fields; every field takes at least one byte. -/
def fields? (depth : Nat) (bs : Bytes) : Option (List NumberedField) :=
  fieldsUpTo? depth bs.length bs

/-- Writes a numbered field. -/
def writeField (number : Nat) : Payload → Bytes
  | .number n => varint (number * 8) ++ varint n
  | .bytes content => varint (number * 8 + 2) ++ varint content.length ++ content
  | .fixed size => varint (number * 8 + if size = 8 then 1 else 5) ++ List.replicate size 0
  | .group => varint (number * 8 + 3) ++ varint (number * 8 + 4)

/-! ### Scalars -/

/-- The bits of an integer in 64 bits; a negative number fills the upper bits. -/
def Width.bits (w : Width) (n : w.Carrier) : Nat :=
  (w.toInt n % 2 ^ 64).toNat

/-- The integer of the lowest bits of a number. -/
def Width.ofBits : (w : Width) → Nat → w.Carrier
  | .u16, n => UInt16.ofNat n
  | .u32, n => UInt32.ofNat n
  | .u64, n => UInt64.ofNat n
  | .i32, n => Int32.ofNat n
  | .i64, n => Int64.ofNat n

/-- The content that stands for a scalar. -/
def Scalar.payload : (s : Scalar) → s.Carrier → Payload
  | .text, s => .bytes (Json.bytesOfText s)
  | .flag, b => .number (if b then 1 else 0)
  | .integer w, n => .number (w.bits n)
  | .choice _, code => .number (Width.bits .i32 code)
  | .keyword _ _, i => .number i.val

/-- The scalar that a content stands for. -/
def Scalar.ofPayload? : (s : Scalar) → Payload → Option s.Carrier
  | .text, .bytes bs => String.fromUTF8? ⟨bs.toArray⟩
  | .flag, .number n => some (n != 0)
  | .integer w, .number n => some (w.ofBits n)
  | .choice _, .number n => some (Width.ofBits .i32 n)
  | .keyword _ others, .number n =>
    if h : n < others.length + 1 then some ⟨n, h⟩ else none
  | _, _ => none

/-! ### Records -/

mutual

/-- The contents of a field: none for a field with its default. -/
def Shape.payloads : (sh : Shape) → sh.Carrier → List Payload
  | .one s d, c => if c = d then [] else [s.payload c]
  | .many s _, cs => cs.map fun c => s.payload c
  | .maybe _ _, none => []
  | .maybe _ fs, some c => [.bytes (fs.encode 1 c)]
  | .each _ fs, cs => cs.map fun c => .bytes (fs.encode 1 c)
  | .group _ fs, c => [.bytes (fs.encode 1 c)]

/-- Writes the fields of a record, the first of them under the given number. -/
def Fields.encode : (fs : Fields) → Nat → fs.Carrier → Bytes
  | .nil, _, _ => []
  | .cons _ sh rest, number, c =>
    (sh.payloads c.1).flatMap (writeField number) ++ rest.encode (number + 1) c.2

end

/-- Takes numbered fields into a record one by one. -/
def mergeAll {σ : Type} (merge : NumberedField → σ → Option σ) : List NumberedField → σ → Option σ
  | [], record => some record
  | f :: rest, record => do
    let record ← merge f record
    mergeAll merge rest record

mutual

/-- Takes one content into a field: a scalar is replaced, a list grows, a record takes in the
    fields of the content. -/
def Shape.merge : (sh : Shape) → Nat → Payload → sh.Carrier → Option sh.Carrier
  | .one s _, _, p, _ => s.ofPayload? p
  | .many s _, _, p, cs => (s.ofPayload? p).map fun c => cs ++ [c]
  | .maybe _ fs, depth + 1, .bytes bs, c => do
    let parts ← fields? depth bs
    let record ← mergeAll (fun f r => fs.merge 1 depth f r) parts (c.getD fs.default)
    some (some record)
  | .each _ fs, depth + 1, .bytes bs, cs => do
    let parts ← fields? depth bs
    let record ← mergeAll (fun f r => fs.merge 1 depth f r) parts fs.default
    some (cs ++ [record])
  | .group _ fs, depth + 1, .bytes bs, c => do
    let parts ← fields? depth bs
    mergeAll (fun f r => fs.merge 1 depth f r) parts c
  | _, _, _, _ => none

/-- Takes a numbered field into a record whose first field has the given number. A field with an
    unknown number is skipped. -/
def Fields.merge : (fs : Fields) → Nat → Nat → NumberedField → fs.Carrier → Option fs.Carrier
  | .nil, _, _, _, record => some record
  | .cons _ sh rest, number, depth, f, record =>
    if f.1 = number then do
      let value ← sh.merge depth f.2 record.1
      some (value, record.2)
    else do
      let more ← rest.merge (number + 1) depth f record.2
      some (record.1, more)

end

/-! ### Structures -/

variable (α : Type) [Record α]

/-- Reads a structure from bytes. -/
def ofWire? (bs : Bytes) : Option α := do
  let parts ← fields? nestingLimit bs
  let record ← mergeAll (fun f r => (Record.fields α).merge 1 nestingLimit f r) parts
    (Record.fields α).default
  some (Record.pack record)

variable {α}

/-- Writes a structure as bytes. -/
def toWire (a : α) : Bytes :=
  (Record.fields α).encode 1 (Record.unpack a)

end Rebac.Record
