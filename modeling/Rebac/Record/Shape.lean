import Rebac.Power

namespace Rebac.Record

/-!
# Shapes of records

A record is described once, by the names and shapes of its fields in the order of declaration, and
every text and byte format is an interpretation of that description.

* `Scalar` and `Shape` say what a field holds, `Fields` lists the fields of a record.
* `Shape.Carrier` and `Fields.Carrier` are the values a description stands for: a record is the
  tuple of its fields.
* `Fields.default` is the record in which every field has its default.
* `Record` ties a structure of the library to its description.
-/

/-! ### Scalars -/

/-- A width of integers. -/
inductive Width where
  | u16
  | u32
  | u64
  | i32
  | i64
  deriving DecidableEq

/-- The integers of a width. -/
abbrev Width.Carrier : Width → Type
  | u16 => UInt16
  | u32 => UInt32
  | u64 => UInt64
  | i32 => Int32
  | i64 => Int64

/-- The name of a width. -/
def Width.name : Width → String
  | u16 => "u16"
  | u32 => "u32"
  | u64 => "u64"
  | i32 => "i32"
  | i64 => "i64"

/-- The value of an integer. -/
def Width.toInt : (w : Width) → w.Carrier → Int
  | u16, n => n.toNat
  | u32, n => n.toNat
  | u64, n => n.toNat
  | i32, n => n.toInt
  | i64, n => n.toInt

/-- The integer of that value, if it lies in the range of the width. -/
def Width.ofInt? : (w : Width) → Int → Option w.Carrier
  | u16, i => if 0 ≤ i ∧ i < 2 ^ 16 then some (UInt16.ofNat i.toNat) else none
  | u32, i => if 0 ≤ i ∧ i < 2 ^ 32 then some (UInt32.ofNat i.toNat) else none
  | u64, i => if 0 ≤ i ∧ i < 2 ^ 64 then some (UInt64.ofNat i.toNat) else none
  | i32, i => if -2 ^ 31 ≤ i ∧ i < 2 ^ 31 then some (Int32.ofInt i) else none
  | i64, i => if -2 ^ 63 ≤ i ∧ i < 2 ^ 63 then some (Int64.ofInt i) else none

/-- Zero. -/
def Width.zero : (w : Width) → w.Carrier
  | u16 | u32 | u64 | i32 | i64 => 0

/-- An open enumeration: every number of 32 bits is a value, and the first few have names. -/
structure Enumeration where
  /-- The name of the enumeration in error messages. -/
  title : String
  /-- The names of the values, from zero. -/
  names : List String

/-- The name of a value, if it has one. -/
def Enumeration.nameOf? (e : Enumeration) (code : Int32) : Option String :=
  if 0 ≤ code.toInt then e.names[code.toInt.toNat]? else none

/-- The value of that name. -/
def Enumeration.codeOf? (e : Enumeration) (name : String) : Option Int32 :=
  (e.names.findIdx? (· = name)).map fun i => Int32.ofInt i

/-- A single value. A `keyword` is one of a fixed list of words, and is kept as its place in it. -/
inductive Scalar where
  | text
  | flag
  | integer (width : Width)
  | choice (enumeration : Enumeration)
  | keyword (first : String) (others : List String)

/-- The values of a scalar. -/
abbrev Scalar.Carrier : Scalar → Type
  | text => String
  | flag => Bool
  | integer w => w.Carrier
  | choice _ => Int32
  | keyword _ others => Fin (others.length + 1)

/-- The value of a scalar that is empty: no text, no, zero, the first word. -/
def Scalar.empty : (s : Scalar) → s.Carrier
  | text => ""
  | flag => false
  | integer w => w.zero
  | choice _ => (0 : Int32)
  | keyword _ others => (0 : Fin (others.length + 1))

/-- Values of a scalar can be compared. -/
instance Scalar.decEq : (s : Scalar) → DecidableEq s.Carrier
  | text => inferInstanceAs (DecidableEq String)
  | flag => inferInstanceAs (DecidableEq Bool)
  | integer .u16 => inferInstanceAs (DecidableEq UInt16)
  | integer .u32 => inferInstanceAs (DecidableEq UInt32)
  | integer .u64 => inferInstanceAs (DecidableEq UInt64)
  | integer .i32 => inferInstanceAs (DecidableEq Int32)
  | integer .i64 => inferInstanceAs (DecidableEq Int64)
  | choice _ => inferInstanceAs (DecidableEq Int32)
  | keyword _ others => inferInstanceAs (DecidableEq (Fin (others.length + 1)))

/-! ### Fields -/

mutual

/-- What a field holds: one scalar with its default, a list of scalars with its default, a record
    that may be absent, a list of records, or a record that is always there. -/
inductive Shape where
  | one (scalar : Scalar) (default : scalar.Carrier)
  | many (scalar : Scalar) (default : List scalar.Carrier)
  | maybe (title : String) (fields : Fields)
  | each (title : String) (fields : Fields)
  | group (title : String) (fields : Fields)

/-- The fields of a record, in the order of declaration. -/
inductive Fields where
  | nil
  | cons (name : String) (shape : Shape) (rest : Fields)

end

/-- The fields of a list of names and shapes. -/
@[reducible]
def Fields.ofList : List (String × Shape) → Fields
  | [] => .nil
  | (name, shape) :: rest => .cons name shape (Fields.ofList rest)

/-- Induction over the fields of a record that does not look into what they hold. -/
@[elab_as_elim]
theorem Fields.induct {motive : Fields → Prop} (nil : motive .nil)
    (cons : ∀ name sh rest, motive rest → motive (.cons name sh rest)) : ∀ fs, motive fs
  | .nil => nil
  | .cons name sh rest => cons name sh rest (Fields.induct nil cons rest)

/-- The names of the fields. -/
def Fields.names : Fields → List String
  | .nil => []
  | .cons name _ rest => name :: rest.names

mutual

/-- The values of a field. -/
@[reducible]
def Shape.Carrier : Shape → Type
  | .one s _ => s.Carrier
  | .many s _ => List s.Carrier
  | .maybe _ fs => Option fs.Carrier
  | .each _ fs => List fs.Carrier
  | .group _ fs => fs.Carrier

/-- The values of a record: the tuple of the values of its fields. -/
@[reducible]
def Fields.Carrier : Fields → Type
  | .nil => Unit
  | .cons _ sh rest => sh.Carrier × rest.Carrier

end

mutual

/-- The value of a field that is not given. -/
def Shape.default : (sh : Shape) → sh.Carrier
  | .one _ d => d
  | .many _ d => d
  | .maybe _ fs => (none : Option fs.Carrier)
  | .each _ fs => ([] : List fs.Carrier)
  | .group _ fs => fs.default

/-- The record in which no field is given. -/
def Fields.default : (fs : Fields) → fs.Carrier
  | .nil => ()
  | .cons _ sh rest => (sh.default, rest.default)

end

end Rebac.Record

namespace Rebac

/-! ### Records -/

/-- A structure that is described by fields. -/
class Record (α : Type) where
  /-- The name of the record in error messages. -/
  title : String
  /-- The fields of the record. -/
  fields : Record.Fields
  /-- The tuple of the fields. -/
  unpack : α → fields.Carrier
  /-- The record of a tuple of fields. -/
  pack : fields.Carrier → α
  /-- Nothing is lost in the tuple. -/
  pack_unpack : ∀ a, pack (unpack a) = a
  /-- Nothing is lost in the record. -/
  unpack_pack : ∀ c, unpack (pack c) = c

end Rebac

namespace Rebac.Record

/-- The record in which every field has its default. -/
def blank (α : Type) [Record α] : α :=
  Record.pack (Record.fields α).default

/-- A field with a text, empty by default. -/
abbrev Shape.text : Shape := .one .text ""

/-- A field with an integer, zero by default. -/
abbrev Shape.integer (w : Width) : Shape := .one (.integer w) w.zero

/-- A field with a list of texts, empty by default. -/
abbrev Shape.texts : Shape := .many .text []

/-- A field with a value of an enumeration, its first by default. -/
abbrev Shape.choice (e : Enumeration) : Shape := .one (.choice e) (0 : Int32)

/-- A field with a record that may be absent. -/
abbrev Shape.record (α : Type) [Record α] : Shape := .maybe (Record.title α) (Record.fields α)

/-- A field with a list of records. -/
abbrev Shape.records (α : Type) [Record α] : Shape := .each (Record.title α) (Record.fields α)

/-- A field with a record that is always there. -/
abbrev Shape.part (α : Type) [Record α] : Shape := .group (Record.title α) (Record.fields α)

section Nested

variable {α : Type} [Record α]

/-- The tuple of a record that may be absent. -/
def unpackOption (a : Option α) : Option (Record.fields α).Carrier := a.map Record.unpack

/-- The record of a tuple that may be absent. -/
def packOption (c : Option (Record.fields α).Carrier) : Option α := c.map Record.pack

/-- The tuples of a list of records. -/
def unpackList (as : List α) : List (Record.fields α).Carrier := as.map Record.unpack

/-- The records of a list of tuples. -/
def packList (cs : List (Record.fields α).Carrier) : List α := cs.map Record.pack

@[simp] theorem packOption_unpackOption (a : Option α) : packOption (unpackOption a) = a := by
  cases a <;> simp [packOption, unpackOption, Record.pack_unpack]

@[simp] theorem unpackOption_packOption (c : Option (Record.fields α).Carrier) :
    unpackOption (packOption c) = c := by
  cases c <;> simp [packOption, unpackOption, Record.unpack_pack]

@[simp] theorem packList_unpackList (as : List α) : packList (unpackList as) = as := by
  induction as with
  | nil => rfl
  | cons a as ih => simp_all [packList, unpackList, Record.pack_unpack]

@[simp] theorem unpackList_packList (cs : List (Record.fields α).Carrier) :
    unpackList (packList cs) = cs := by
  induction cs with
  | nil => rfl
  | cons c cs ih => simp_all [packList, unpackList, Record.unpack_pack]

end Nested

end Rebac.Record
