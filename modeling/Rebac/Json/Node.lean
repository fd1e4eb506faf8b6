import Rebac.Json.Syntax
import Rebac.Json.Number

namespace Rebac.Json

/-!
# The tree of a JSON text

A `Node` is what a text holds as far as it can be read. Where the text stops being JSON the tree
ends in a `broken` place, and every container around that place is marked with the same fault, so that a
reader meets the faults of the text and those of its own expectations in the order of the text.

* `Key` and a text node may be unreadable without ending the tree: a skipped text is checked less
  closely than one that is wanted.
* `Node.skipFault` is the fault met by a reader that skips the value.
* `Value` is the tree of a text without faults, `Value.node` embeds it.
-/

/-- The name of a member, or why it cannot be read. -/
abbrev Key := Except SyntaxError String

/-- A value as far as the text can be read. `broken` is the place where the text breaks off; `stop` in a
    container it says that the closing bracket was not reached. -/
inductive Node where
  | null
  | bool (value : Bool)
  | number (value : Except SyntaxError Number)
  | text (value : Except SyntaxError String)
  | array (items : List Node) (stop : Option Fault)
  | object (members : List (Key × Node)) (stop : Option Fault)
  | broken (fault : Fault)
  deriving Inhabited

/-- A member of an object. -/
abbrev Member := Key × Node

/-- What a reader reports that skips the value: nothing when the value ends inside the text. -/
def Node.skipFault : Node → Option SyntaxError
  | .array _ stop | .object _ stop => stop.map Fault.skip
  | .broken fault => some fault.skip
  | _ => none

/-- A whole text: its first value, and whether anything but blanks follows it. -/
structure Document where
  root : Node
  trailing : Bool

/-- A JSON value. -/
inductive Value where
  | null
  | bool (value : Bool)
  | number (value : Number)
  | text (value : String)
  | array (items : List Value)
  | object (members : List (String × Value))
  deriving Inhabited

mutual

/-- The tree of a value. -/
def Value.node : Value → Node
  | .null => .null
  | .bool b => .bool b
  | .number n => .number (.ok n)
  | .text s => .text (.ok s)
  | .array items => .array (Value.nodes items) none
  | .object members => .object (Value.memberNodes members) none

/-- The trees of a list of values. -/
def Value.nodes : List Value → List Node
  | [] => []
  | v :: rest => v.node :: Value.nodes rest

/-- The trees of the members of an object. -/
def Value.memberNodes : List (String × Value) → List Member
  | [] => []
  | (k, v) :: rest => (.ok k, v.node) :: Value.memberNodes rest

end

/-- How deep a wanted value may be nested. -/
def depthLimit : Nat := 128

mutual

/-- The value of a tree, or the first fault in the order of the text. `depth` is the number of
    levels that may still be opened. -/
def Node.value? : Nat → Node → Except SyntaxError Value
  | _, .null => .ok .null
  | _, .bool b => .ok (.bool b)
  | _, .number n => n.map .number
  | _, .text t => t.map .text
  | depth, .array items stop =>
    if depth ≤ 1 then .error .tooDeep
    else do
      let vs ← Node.values? (depth - 1) items
      match stop with
      | none => .ok (.array vs)
      | some fault => .error fault.read
  | depth, .object members stop =>
    if depth ≤ 1 then .error .tooDeep
    else do
      let ms ← Node.memberValues? (depth - 1) members
      match stop with
      | none => .ok (.object ms)
      | some fault => .error fault.read
  | _, .broken fault => .error fault.read

/-- The values of the items of an array. -/
def Node.values? : Nat → List Node → Except SyntaxError (List Value)
  | _, [] => .ok []
  | depth, n :: rest => do
    let v ← n.value? depth
    let vs ← Node.values? depth rest
    .ok (v :: vs)

/-- The values of the members of an object, in the order of the text. -/
def Node.memberValues? : Nat → List Member → Except SyntaxError (List (String × Value))
  | _, [] => .ok []
  | depth, (k, n) :: rest => do
    let k ← k
    let v ← n.value? depth
    let vs ← Node.memberValues? depth rest
    .ok ((k, v) :: vs)

end

/-- The value of a whole text. -/
def Document.value? (d : Document) : Except SyntaxError Value := do
  let v ← d.root.value? depthLimit
  if d.trailing then .error .trailingCharacters else .ok v

/-! ### Objects as finite maps -/

/-- Puts a member into a list that is sorted by name, in the place of one of the same name. -/
def putMember (name : String) (value : Value) : List (String × Value) → List (String × Value)
  | [] => [(name, value)]
  | (k, v) :: rest =>
    if name = k then (name, value) :: rest
    else if name < k then (name, value) :: (k, v) :: rest
    else (k, v) :: putMember name value rest

mutual

/-- The value in which the members of every object are sorted by name; of repeated members the
    last one is kept. -/
def Value.sorted : Value → Value
  | .array items => .array (Value.sortedItems items)
  | .object members => .object (Value.sortedMembers [] members)
  | .null => .null
  | .bool b => .bool b
  | .number n => .number n
  | .text s => .text s

/-- The items of an array, each sorted. -/
def Value.sortedItems : List Value → List Value
  | [] => []
  | v :: rest => v.sorted :: Value.sortedItems rest

/-- Adds the members of an object to those that are sorted already. -/
def Value.sortedMembers (done : List (String × Value)) :
    List (String × Value) → List (String × Value)
  | [] => done
  | (k, v) :: rest => Value.sortedMembers (putMember k v.sorted done) rest

end

end Rebac.Json
