import Rebac.Toml.Value

namespace Rebac.Config

/-!
# Trees of given settings

What a source gives, before it is known what it should be: values under names, each marked with the
source it comes from. Settings that no source gives are not in the tree.

* `Tree.merge` lays one source over another.
* `Tree.ofToml` is the tree of a file.
-/

/-- Where a setting comes from. -/
inductive Source where
  | file (name : String)
  | environment
  deriving DecidableEq

/-- A single given value. Whole numbers of a file are signed, those of a variable are unsigned unless
    they have a minus sign. -/
inductive Given where
  | text (value : String)
  | flag (value : Bool)
  | unsigned (value : Nat)
  | signed (value : Int)
  | float (value : Float)

/-- Given settings. The entries of a table are in ascending order of their names. -/
inductive Tree where
  | leaf (source : Source) (value : Given)
  | list (source : Source) (items : List Tree)
  | table (source : Source) (entries : List (String × Tree))

namespace Tree

/-- The tree under a name. -/
def find? (name : String) : List (String × Tree) → Option Tree
  | [] => none
  | (n, t) :: rest => if n = name then some t else find? name rest

/-- The entries with this tree under the name. -/
def put (name : String) (t : Tree) : List (String × Tree) → List (String × Tree)
  | [] => [(name, t)]
  | (n, u) :: rest =>
    if name = n then (n, t) :: rest
    else if name < n then (name, t) :: (n, u) :: rest
    else (n, u) :: put name t rest

mutual

/-- Lays the second tree over the first: tables are merged entry by entry, everything else takes the
    place of what was there. -/
def merge (under : Tree) : Tree → Tree
  | .table source entries =>
    match under with
    | .table _ base => .table source (mergeEntries base entries)
    | _ => .table source entries
  | .list source items => .list source items
  | .leaf source value => .leaf source value

/-- Lays entries over those of a table. -/
def mergeEntries (base : List (String × Tree)) : List (String × Tree) → List (String × Tree)
  | [] => base
  | (name, t) :: rest =>
    let merged := match find? name base with
      | some under => merge under t
      | none => t
    mergeEntries (put name merged base) rest

end

/-- The name under which a date stands, which is given as a table. -/
def dateName : String := "$__toml_private_datetime"

mutual

/-- The tree of a value of a file. -/
def ofToml (source : Source) : Toml.Value → Tree
  | .text s => .leaf source (.text s)
  | .integer i => .leaf source (.signed i)
  | .float x => .leaf source (.float x)
  | .flag b => .leaf source (.flag b)
  | .date s => .table source [(dateName, .leaf source (.text s))]
  | .array items => .list source (ofItems source items)
  | .table entries => .table source (ofEntries source [] entries)

/-- The trees of a list of values. -/
def ofItems (source : Source) : List Toml.Value → List Tree
  | [] => []
  | v :: rest => ofToml source v :: ofItems source rest

/-- The trees of entries, added to those in front of them. -/
def ofEntries (source : Source) (done : List (String × Tree)) :
    List (String × Toml.Value) → List (String × Tree)
  | [] => done
  | (name, v) :: rest => ofEntries source (put name (ofToml source v) done) rest

end

end Tree

end Rebac.Config
