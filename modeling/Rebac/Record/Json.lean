import Rebac.Record.Shape
import Rebac.Json.Reader
import Rebac.Json.Writer
import Rebac.Text.Quoted

namespace Rebac.Record

open Rebac.Json

/-!
# Records as JSON

* `Shape.read` and `Fields.put` read a field or a record from the tree of a text: members may come
  in any order and may be missing, unknown members are skipped, a repeated member is refused, and a
  record may also be given as the list of its fields.
* `Shape.value` and `Fields.members` are the JSON value of a record: all its fields in order.
* `ofJson` and `toJson` do the same for the structures of the library.
-/

/-! ### What can go wrong -/

/-- A value that was found in the place of another. -/
inductive Found where
  | text (value : String)
  | number (value : Number)
  | bool (value : Bool)
  | null
  | sequence
  | map

/-- How a found value is named. -/
def Found.message : Found → String
  | text s => "string " ++ Text.quoted s
  | number (.int i) => s!"integer `{i}`"
  | number (.float x) => "floating point `" ++ (Number.float x).text ++ "`"
  | bool b => s!"boolean `{b}`"
  | null => "null"
  | sequence => "sequence"
  | map => "map"

/-- Why a record cannot be read. -/
inductive DecodeError where
  | malformed (error : SyntaxError)
  | invalidType (found : Found) (expected : String)
  | invalidValue (found : Found) (expected : String)
  | duplicateField (name : String)
  | noVariant
  | unknownName (title name : String)
  | unknownVariant (name : String) (known : List String)
  | surplus (count : Nat)

/-- The known words of an error message. -/
def oneOf : List String → String
  | [] => "there are no variants"
  | [a] => s!"expected `{a}`"
  | [a, b] => s!"expected `{a}` or `{b}`"
  | words => "expected one of " ++ ", ".intercalate (words.map fun w => s!"`{w}`")

/-- The wording of an error. -/
def DecodeError.message : DecodeError → String
  | malformed e => e.message
  | invalidType found expected => s!"invalid type: {found.message}, expected {expected}"
  | invalidValue found expected => s!"invalid value: {found.message}, expected {expected}"
  | duplicateField name => s!"duplicate field `{name}`"
  | noVariant => "data did not match any variant of untagged enum EnumValue"
  | unknownName title name => s!"unknown {title} value " ++ Text.quoted name
  | unknownVariant name known => s!"unknown variant `{name}`, " ++ oneOf known
  | surplus count => s!"invalid length {count}, expected fewer elements in array"

/-- Where a tree comes from. It only matters for a list with more items than a record has fields:
    in a text the reader is surprised at the first of them, in a value it has counted them all. -/
inductive Origin where
  | text
  | value
  deriving DecidableEq

/-- The value of an unreadable place is its fault. -/
def readable {α : Type} : Except SyntaxError α → Except DecodeError α
  | .ok a => .ok a
  | .error e => .error (.malformed e)

/-- Reports a value that is not what a reader expects; faults inside it come first. -/
def mismatch {α : Type} (expected : String) : Node → Except DecodeError α
  | .null => .error (.invalidType .null expected)
  | .bool b => .error (.invalidType (.bool b) expected)
  | .number n => do .error (.invalidType (.number (← readable n)) expected)
  | .text t => do .error (.invalidType (.text (← readable t)) expected)
  | .array _ _ => .error (.invalidType .sequence expected)
  | .object _ _ => .error (.invalidType .map expected)
  | .broken fault => .error (.malformed fault.read)

/-! ### Reading scalars -/

/-- Reads a text. -/
def readText : Node → Except DecodeError String
  | .text t => readable t
  | n => mismatch "a string" n

/-- Reads a yes or no. -/
def readFlag : Node → Except DecodeError Bool
  | .bool b => .ok b
  | n => mismatch "a boolean" n

/-- Reads an integer. A double is refused even when it is whole. -/
def readInteger (w : Width) : Node → Except DecodeError w.Carrier
  | .number (.ok (.int i)) =>
    match w.ofInt? i with
    | some n => .ok n
    | none => .error (.invalidValue (.number (.int i)) w.name)
  | n => mismatch w.name n

/-- Reads a value of an enumeration: the name of a value, or any number of 32 bits. -/
def readChoice (e : Enumeration) (depth : Nat) (n : Node) : Except DecodeError Int32 := do
  match ← readable (n.value? depth) with
  | .text name =>
    match e.codeOf? name with
    | some code => .ok code
    | none => .error (.unknownName e.title name)
  | .number (.int i) =>
    match Width.ofInt? .i32 i with
    | some code => .ok code
    | none => .error .noVariant
  | _ => .error .noVariant

/-- The place of a word in a list of words. -/
def wordIndex? (word : String) : (words : List String) → Option (Fin words.length)
  | [] => none
  | w :: rest => if w = word then some 0 else (wordIndex? word rest).map Fin.succ

/-- Reads one of the words. An object with the word as its only member, and nothing as its value,
    is the same. -/
def readKeyword (first : String) (others : List String) :
    Node → Except DecodeError (Fin (others.length + 1))
  | .text t => do
    let word ← readable t
    match wordIndex? word (first :: others) with
    | some i => .ok i
    | none => .error (.unknownVariant word (first :: others))
  | .object [(key, value)] none => do
    let word ← readable key
    match wordIndex? word (first :: others) with
    | some i => match value with
      | .null => .ok i
      | other => mismatch "unit" other
    | none => .error (.unknownVariant word (first :: others))
  | .object _ _ => .error (.invalidValue .map "map with a single key")
  | n => mismatch "string or map" n

/-- Reads a scalar. -/
def Scalar.read (depth : Nat) : (s : Scalar) → Node → Except DecodeError s.Carrier
  | .text => readText
  | .flag => readFlag
  | .integer w => readInteger w
  | .choice e => readChoice e depth
  | .keyword first others => readKeyword first others

/-! ### Reading lists and records -/

/-- Reads the items of a list in order. -/
def readEach {β : Type} (item : Node → Except DecodeError β) :
    List Node → Except DecodeError (List β)
  | [] => .ok []
  | n :: rest => do
    let b ← item n
    let bs ← readEach item rest
    .ok (b :: bs)

/-- Reads a list. -/
def readList {β : Type} (item : Node → Except DecodeError β) : Node → Except DecodeError (List β)
  | .array items stop => do
    let bs ← readEach item items
    match stop with
    | none => .ok bs
    | some fault => .error (.malformed fault.read)
  | n => mismatch "a sequence" n

/-- Reads the members of an object. `put` answers `none` for a name that it does not know; such a
    member is skipped. -/
def readMembers {σ : Type} (put : String → Node → σ → Except DecodeError (Option σ)) :
    List Member → σ → Except DecodeError σ
  | [], slots => .ok slots
  | (key, n) :: rest, slots => do
    let name ← readable key
    match ← put name n slots with
    | some slots => readMembers put rest slots
    | none => match n.skipFault with
      | none => readMembers put rest slots
      | some e => .error (.malformed e)

/-- What follows the last field in the list form of a record. -/
def checkListEnd (origin : Origin) (count : Nat) (left : List Node) (stop : Option Fault) :
    Except DecodeError Unit :=
  match left, stop with
  | [], none => .ok ()
  | [], some fault =>
    if fault.read = .endOfList ∨ fault.read = .trailingComma then .error (.malformed fault.read)
    else .error (.malformed .trailingCharacters)
  | _ :: _, _ =>
    match origin with
    | .text => .error (.malformed .trailingCharacters)
    | .value => .error (.surplus count)

/-- The fields of a record that have been read so far. -/
@[reducible]
def Fields.Slots : Fields → Type
  | .nil => Unit
  | .cons _ sh rest => Option sh.Carrier × rest.Slots

/-- No field has been read. -/
def Fields.vacant : (fs : Fields) → fs.Slots
  | .nil => ()
  | .cons _ _ rest => (none, rest.vacant)

/-- The record of the fields read; the others have their defaults. -/
def Fields.filled : (fs : Fields) → fs.Slots → fs.Carrier
  | .nil, _ => ()
  | .cons _ sh rest, slots => (slots.1.getD sh.default, rest.filled slots.2)

/-- Reads a record, as an object or as the list of its fields. -/
def readRecord (origin : Origin) (title : String) (fs : Fields)
    (put : String → Node → fs.Slots → Except DecodeError (Option fs.Slots))
    (items : List Node → Option Fault → Except DecodeError (fs.Carrier × List Node)) :
    Node → Except DecodeError fs.Carrier
  | .object members stop => do
    let slots ← readMembers put members fs.vacant
    match stop with
    | none => .ok (fs.filled slots)
    | some fault => .error (.malformed fault.read)
  | .array nodes stop => do
    let (record, left) ← items nodes stop
    checkListEnd origin nodes.length left stop
    .ok record
  | n => mismatch s!"struct {title}" n

mutual

/-- Reads a field. `depth` is the number of levels that may still be opened. -/
def Shape.read (origin : Origin) : (sh : Shape) → Nat → Node → Except DecodeError sh.Carrier
  | .one s _, depth, n => s.read depth n
  | .many s _, depth, n => readList (s.read (depth - 1)) n
  | .maybe _ _, _, .null => .ok none
  | .maybe title fs, depth, n => do
    let record ← readRecord origin title fs (fun name n slots => fs.put origin (depth - 1) name n slots)
      (fun nodes stop => fs.readItems origin (depth - 1) nodes stop) n
    .ok (some record)
  | .each title fs, depth, n =>
    readList (fun n => readRecord origin title fs
      (fun name n slots => fs.put origin (depth - 2) name n slots)
      (fun nodes stop => fs.readItems origin (depth - 2) nodes stop) n) n
  | .group title fs, depth, n =>
    readRecord origin title fs (fun name n slots => fs.put origin (depth - 1) name n slots)
      (fun nodes stop => fs.readItems origin (depth - 1) nodes stop) n

/-- Reads the member of that name into its slot, `none` if no field has the name. -/
def Fields.put (origin : Origin) :
    (fs : Fields) → Nat → String → Node → fs.Slots → Except DecodeError (Option fs.Slots)
  | .nil, _, _, _, _ => .ok none
  | .cons field sh rest, depth, name, n, slots =>
    if name = field then
      match slots.1 with
      | some _ => .error (.duplicateField field)
      | none => do
        let value ← sh.read origin depth n
        .ok (some (some value, slots.2))
    else do
      match ← rest.put origin depth name n slots.2 with
      | some more => .ok (some (slots.1, more))
      | none => .ok none

/-- Reads the fields from a list in the order of declaration, and gives what is left of the list. -/
def Fields.readItems (origin : Origin) :
    (fs : Fields) → Nat → List Node → Option Fault → Except DecodeError (fs.Carrier × List Node)
  | .nil, _, nodes, _ => .ok ((), nodes)
  | .cons _ sh rest, depth, [], stop =>
    match stop with
    | some fault => .error (.malformed fault.read)
    | none => do
      let (more, left) ← rest.readItems origin depth [] stop
      .ok ((sh.default, more), left)
  | .cons _ sh rest, depth, n :: nodes, stop => do
    let value ← sh.read origin depth n
    let (more, left) ← rest.readItems origin depth nodes stop
    .ok ((value, more), left)

end

/-! ### Writing -/

/-- The JSON value of a scalar. A value of an enumeration is written by its name if it has one. -/
def Scalar.value : (s : Scalar) → s.Carrier → Value
  | .text, s => .text s
  | .flag, b => .bool b
  | .integer w, n => .number (.int (w.toInt n))
  | .choice e, code =>
    match e.nameOf? code with
    | some name => .text name
    | none => .number (.int (Int32.toInt code))
  | .keyword first others, i => .text ((first :: others).get i)

mutual

/-- The JSON value of a field. -/
def Shape.value : (sh : Shape) → sh.Carrier → Value
  | .one s _, c => s.value c
  | .many s _, cs => .array (cs.map fun c => s.value c)
  | .maybe _ _, none => .null
  | .maybe _ fs, some c => .object (fs.members c)
  | .each _ fs, cs => .array (cs.map fun c => .object (fs.members c))
  | .group _ fs, c => .object (fs.members c)

/-- The members of a record, in the order of declaration. -/
def Fields.members : (fs : Fields) → fs.Carrier → List (String × Value)
  | .nil, _ => []
  | .cons name sh rest, c => (name, sh.value c.1) :: rest.members c.2

end

/-! ### Structures -/

variable (α : Type) [Record α]

/-- Reads the tuple of a structure from a tree. -/
def readTree (origin : Origin) (n : Node) : Except DecodeError α := do
  let c ← Shape.read origin (.part α) depthLimit n
  .ok (Record.pack c)

/-- Reads a structure from a whole text. -/
def ofJson (text : List UInt8) : Except DecodeError α := do
  let d := Document.ofBytes text
  let a ← readTree α .text d.root
  if d.trailing then .error (.malformed .trailingCharacters) else .ok a

/-- Reads a structure from a JSON value. -/
def ofValue (v : Value) : Except DecodeError α :=
  readTree α .value v.node

variable {α}

/-- The JSON value of a structure. -/
def toValue (a : α) : Value :=
  .object ((Record.fields α).members (Record.unpack a))

/-- The compact JSON text of a structure. -/
def toJson (a : α) : List UInt8 :=
  (toValue a).write

end Rebac.Record
