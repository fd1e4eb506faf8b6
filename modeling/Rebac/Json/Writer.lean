import Rebac.Json.Text

namespace Rebac.Json

/-!
# Writing JSON text

The compact form: no blanks, members in their order, strings as `writeText` has them.
-/

/-- The bytes of an ASCII text. -/
def asciiBytes (s : String) : List UInt8 :=
  s.toList.map ascii

/-- The parts with a comma between each two of them. -/
def commaSeparated : List (List UInt8) → List UInt8
  | [] => []
  | [part] => part
  | part :: rest => part ++ ascii ',' :: commaSeparated rest

mutual

/-- The compact text of a value. -/
def Value.write : Value → List UInt8
  | .null => asciiBytes "null"
  | .bool true => asciiBytes "true"
  | .bool false => asciiBytes "false"
  | .number n => asciiBytes n.text
  | .text s => writeText s
  | .array items => ascii '[' :: commaSeparated (Value.writeItems items) ++ [ascii ']']
  | .object members =>
    ascii '\x7b' :: commaSeparated (Value.writeMembers members) ++ [ascii '\x7d']

/-- The texts of the items of an array. -/
def Value.writeItems : List Value → List (List UInt8)
  | [] => []
  | v :: rest => v.write :: Value.writeItems rest

/-- The texts of the members of an object. -/
def Value.writeMembers : List (String × Value) → List (List UInt8)
  | [] => []
  | (k, v) :: rest => (writeText k ++ ascii ':' :: v.write) :: Value.writeMembers rest

end

/-- The compact text as a string. -/
def Value.compact (v : Value) : String :=
  match String.fromUTF8? ⟨v.write.toArray⟩ with
  | some s => s
  | none => ""

end Rebac.Json
