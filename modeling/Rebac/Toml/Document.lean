import Rebac.Toml.Statement

namespace Rebac.Toml

/-!
# Tables

The statements of a text build up one table. A table may be opened by its own header once; it comes
to be on the way to another header or through the path of an entry, and no key may be given twice.

* `Item` is a table while it is built, `build?` takes in the statements one by one.
* `entriesOfText?` gives the entries of the table of a whole text.
-/

/-- How a table came to be: by its own header, on the way to another header, or through the path of
    an entry. -/
inductive TableKind where
  | opened
  | implied
  | dotted
  deriving DecidableEq

/-- What stands under a key while the tables are built. -/
inductive Item where
  | value (v : Value)
  | table (kind : TableKind) (entries : List (String × Item))
  | tables (earlier : List Item) (last : List (String × Item))

/-- The entries of a table while it is built. -/
abbrev Entries := List (String × Item)

/-- The item under a key. -/
def Entries.find? (es : Entries) (key : String) : Option Item :=
  (List.find? (fun (e : String × Item) => e.1 = key) es).map (·.2)

/-- The entries with this item under the key. -/
def Entries.put (es : Entries) (key : String) (item : Item) : Entries :=
  match es with
  | [] => [(key, item)]
  | (k, i) :: rest => if k = key then (key, item) :: rest else (k, i) :: Entries.put rest key item

/-- Follows a path down from a table and changes the table at its end; missing tables on the way come
    to be as `made`. A table with a header of its own cannot be reached through the path of an
    entry. -/
def descend (made : TableKind) (change : TableKind → Entries → Option Entries) :
    List String → TableKind → Entries → Option Entries
  | [], kind, es => change kind es
  | key :: path, _, es =>
    match es.find? key with
    | none => do
      let inner ← descend made change path made []
      some (es.put key (.table made inner))
    | some (.value _) => none
    | some (.tables earlier last) => do
      let last ← descend made change path .opened last
      some (es.put key (.tables earlier last))
    | some (.table kind inner) =>
      if made = .dotted && kind = .opened then none
      else do
        let inner ← descend made change path kind inner
        some (es.put key (.table kind inner))

/-- Puts an item under a key that must be free. A path of several keys must end in a table that came
    to be through such a path. -/
def putNew (isLong : Bool) (key : String) (item : Item) (kind : TableKind) (es : Entries) :
    Option Entries :=
  if isLong && kind ≠ .dotted then none
  else
    match es.find? key with
    | none => some (es.put key item)
    | some _ => none

/-- Adds an entry with its path to a table. -/
def addEntry (path : List String) (item : Item) (es : Entries) : Option Entries :=
  match path.getLast? with
  | none => none
  | some key => descend .dotted (putNew (1 < path.length) key item) path.dropLast .opened es

mutual

/-- The value of an item. -/
def Item.toValue : Item → Value
  | .value v => v
  | .table _ es => .table (Item.toValues es)
  | .tables earlier last => .array (Item.listValues earlier ++ [.table (Item.toValues last)])

/-- The values of entries. -/
def Item.toValues : List (String × Item) → List (String × Value)
  | [] => []
  | (k, i) :: rest => (k, i.toValue) :: Item.toValues rest

/-- The values of a list of items. -/
def Item.listValues : List Item → List Value
  | [] => []
  | i :: rest => i.toValue :: Item.listValues rest

end

mutual

/-- The value of a written value. -/
def Literal.value? : Literal → Option Value
  | .text s => some (.text s)
  | .integer i => some (.integer i)
  | .float x => some (.float x)
  | .flag b => some (.flag b)
  | .date s => some (.date s)
  | .array items => (Literal.values? items).map .array
  | .table entries => (Literal.entries? [] entries).map fun es => .table (Item.toValues es)

/-- The values of a list of written values. -/
def Literal.values? : List Literal → Option (List Value)
  | [] => some []
  | l :: rest => do
    let v ← l.value?
    let vs ← Literal.values? rest
    some (v :: vs)

/-- The entries of an inline table, added to those in front of them. -/
def Literal.entries? (done : Entries) : List (List String × Literal) → Option Entries
  | [] => some done
  | (path, l) :: rest => do
    let v ← l.value?
    let done ← addEntry path (.value v) done
    Literal.entries? done rest

end

/-- Opens the table of a header, which may not have been opened before. -/
def openTable (key : String) (_ : TableKind) (es : Entries) : Option Entries :=
  match es.find? key with
  | none => some (es.put key (.table .opened []))
  | some (.table .implied inner) => some (es.put key (.table .opened inner))
  | some _ => none

/-- Adds a table to the list of tables of a header. -/
def openListed (key : String) (_ : TableKind) (es : Entries) : Option Entries :=
  match es.find? key with
  | none => some (es.put key (.tables [] []))
  | some (.tables earlier last) => some (es.put key (.tables (earlier ++ [.table .opened last]) []))
  | some _ => none

/-- The table that statements build, each entry in the table of the header before it. -/
def build? (current : List String) (root : Entries) : List Statement → Option Entries
  | [] => some root
  | .header path :: rest =>
    match path.getLast? with
    | none => none
    | some key => do
      let root ← descend .implied (openTable key) path.dropLast .opened root
      build? path root rest
  | .listHeader path :: rest =>
    match path.getLast? with
    | none => none
    | some key => do
      let root ← descend .implied (openListed key) path.dropLast .opened root
      build? path root rest
  | .entry path l :: rest => do
    let v ← l.value?
    let root ← descend .implied (fun _ es => addEntry path (.value v) es) current .opened root
    build? current root rest

/-- The entries of the table of a text, `none` if the text is not TOML. -/
def entriesOfText? (text : String) : Option (List (String × Value)) := do
  let statements ← statements? text
  let root ← build? [] [] statements
  some (Item.toValues root)

end Rebac.Toml
