import Rebac.Config.VariableFile
import Rebac.Config.VariableValue

namespace Rebac.Config

/-!
# Variables as settings

A variable whose name starts with `PERMIFY_` gives a setting: the rest of its name is the path of the
setting, with two underscores between the parts. Case does not matter.

* `Tree.ofVariables` is the tree of all variables.
-/

/-- What the name of a variable that gives a setting starts with. -/
def variablePrefix : String := "PERMIFY_"

/-- The variable that tells the path of the file; it is not a setting. -/
def pathVariable : String := "PERMIFY_CONFIG_PATH"

/-- Two texts that differ at most in the case of ASCII letters. -/
def sameFolded (a b : String) : Bool :=
  a.toLower = b.toLower

/-- The parts of a text between double underscores and points. -/
def nameParts (current : List Char) : List Char → List String
  | [] => [String.ofList current.reverse]
  | '_' :: '_' :: rest => String.ofList current.reverse :: nameParts [] rest
  | '.' :: rest => String.ofList current.reverse :: nameParts [] rest
  | c :: rest => nameParts (c :: current) rest

/-- The path of the setting that a variable gives, if it gives one. -/
def variablePath? (name : String) : Option (List String) :=
  let cs := Text.trimChars name.toList
  let head := cs.take variablePrefix.length
  if sameFolded (String.ofList head) variablePrefix && !sameFolded (String.ofList cs) pathVariable then
    let parts := nameParts [] (cs.drop variablePrefix.length)
    if parts.any String.isEmpty then none else some (parts.map String.toLower)
  else none

/-- The tree with one value under a path. -/
def Tree.under (t : Tree) : List String → Tree
  | [] => t
  | name :: path => .table .environment [(name, t.under path)]

/-- The tree with the setting that a variable gives laid over it. -/
def Tree.withVariable (t : Tree) (v : Variable) : Tree :=
  match variablePath? v.1 with
  | some path => t.merge ((Tree.ofVariable v.2).under path)
  | none => t

/-- The tree of all variables; a later variable has priority. -/
def Tree.ofVariables (vs : List Variable) : Tree :=
  vs.foldl Tree.withVariable (.table .environment [])

end Rebac.Config
