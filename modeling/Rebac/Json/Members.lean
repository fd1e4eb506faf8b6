import Rebac.Json.Node

namespace Rebac.Json

/-!
# Members that are asked for

Where a structure is read from an object, each of its fields may stand there once. Members that belong
to no field are skipped: they must be whole, but nothing is asked of their values.

* `Document.whole?`, `Node.members?`, `Node.items?` — the parts of a text that is whole.
* `sole?` — the member of a field.
-/

/-- The value of a text that holds nothing else. -/
def Document.whole? (d : Document) : Option Node :=
  if d.trailing then none else some d.root

/-- The members of an object that is whole, if all its names can be read. -/
def Node.members? : Node → Option (List (String × Node))
  | .object members none => members.mapM fun m => m.1.toOption.map fun name => (name, m.2)
  | _ => none

/-- The items of an array that is whole. -/
def Node.items? : Node → Option (List Node)
  | .array items none => some items
  | _ => none

/-- The member of a field, if there is one; `none` if there are several. -/
def sole? {α : Type} (name : String) (members : List (String × α)) : Option (Option α) :=
  match members.filter fun m => m.1 = name with
  | [] => some none
  | [m] => some (some m.2)
  | _ => none

/-- A text. -/
def Node.text? : Node → Option String
  | .text (.ok s) => some s
  | _ => none

/-- A text that may be missing or nothing. -/
def optionalText? : Option Node → Option (Option String)
  | none | some .null => some none
  | some n => n.text?.map some

/-- A member that must be there, and a text. -/
def textMember? (name : String) (members : List (String × Node)) : Option String := do
  let member ← sole? name members
  (← member).text?

end Rebac.Json
