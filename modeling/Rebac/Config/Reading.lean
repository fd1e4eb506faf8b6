import Rebac.Config.Tree
import Rebac.Decimal.Plain
import Rebac.Record.Json
import Rebac.Text.Quoted

namespace Rebac.Config

open Rebac.Record

/-!
# Records of given settings

The tree of given settings is read by the description of the record; what is not given has its
default. The entries of a table are read in ascending order of their names, so the first mistake in
that order is reported.

* `Mistake` is what is wrong at one place of the tree.
* `readSettings` is the record of a tree.
-/

/-- What a reader finds instead of what it expects. -/
inductive FoundValue where
  | given (value : Given)
  | list
  | table

/-- The wording of what is found. -/
def FoundValue.message : FoundValue → String
  | given (.text s) => "string " ++ Text.quoted s
  | given (.flag b) => s!"bool {b}"
  | given (.unsigned n) => s!"unsigned int `{n}`"
  | given (.signed i) => s!"signed int `{i}`"
  | given (.float x) => s!"float `{Decimal.plainText x}`"
  | list => "sequence"
  | table => "map"

/-- What is wrong with a value. -/
inductive MistakeKind where
  | wrongType (found : FoundValue) (expected : String)
  | outOfRange (found : FoundValue) (expected : String)
  | unknownWord (found : String) (known : List String)

/-- Words with `or` between the last two. -/
def wordChoice : List String → String
  | [] => "none"
  | [a] => s!"`{a}`"
  | [a, b] => s!"`{a}` or `{b}`"
  | words => "one of " ++ ", ".intercalate (words.map fun w => s!"`{w}`")

/-- The wording of what is wrong. -/
def MistakeKind.message : MistakeKind → String
  | wrongType found expected => s!"invalid type: found {found.message}, expected {expected}"
  | outOfRange found expected => s!"invalid value {found.message}, expected {expected}"
  | unknownWord found known => s!"unknown variant: found `{found}`, expected `{wordChoice known}`"

/-- What is wrong, where in the tree, and where it comes from. -/
structure Mistake where
  kind : MistakeKind
  path : List String
  source : Source

/-- How a source names a setting: a variable in capitals, a file within its only profile. -/
def Source.key (path : List String) : Source → String
  | file _ => ".".intercalate ("default" :: path)
  | environment => (".".intercalate path).toUpper

/-- The name of a source. -/
def Source.title : Source → String
  | file name => name ++ " TOML file"
  | environment => "`PERMIFY_` environment variable(s)"

/-- The wording of a mistake. -/
def Mistake.message (m : Mistake) : String :=
  let place := if m.path.isEmpty then "" else " for key " ++ Text.quoted (m.source.key m.path)
  s!"{m.kind.message}{place} in {m.source.title}"

/-- The result of a reader of a part of the tree. -/
abbrev Result (α : Type) := Except Mistake α

/-- The result of the part under a name. -/
def within {α : Type} (name : String) (r : Result α) : Result α :=
  r.mapError fun m => { m with path := name :: m.path }

/-- The source of a tree. -/
def Tree.source : Tree → Source
  | leaf s _ | list s _ | table s _ => s

/-- What a tree is found to be. -/
def Tree.found : Tree → FoundValue
  | leaf _ v => .given v
  | list _ _ => .list
  | table _ _ => .table

/-- Reports a tree that is not what a reader expects. -/
def unexpected {α : Type} (expected : String) (t : Tree) : Result α :=
  .error ⟨.wrongType t.found expected, [], t.source⟩

/-- Reads an integer. -/
def readWhole (w : Width) (t : Tree) : Result w.Carrier :=
  let ofInt (i : Int) : Result w.Carrier :=
    match w.ofInt? i with
    | some n => .ok n
    | none => .error ⟨.outOfRange t.found w.name, [], t.source⟩
  match t with
  | .leaf _ (.unsigned n) => ofInt n
  | .leaf _ (.signed i) => ofInt i
  | t => unexpected w.name t

/-- Reads one of the words. A table with the word as its only name is refused for what stands under
    the name. -/
def readWord (title first : String) (others : List String) (t : Tree) :
    Result (Fin (others.length + 1)) :=
  let known (word : String) : Result (Fin (others.length + 1)) :=
    match wordIndex? word (first :: others) with
    | some i => .ok i
    | none => .error ⟨.unknownWord word (first :: others), [], t.source⟩
  match t with
  | .leaf _ (.text word) => known word
  | .table _ [] => unexpected "enum" t
  | .table _ ((name, inner) :: _) => do
    let _ ← known name
    within name (unexpected "unit" inner)
  | t => unexpected ("enum " ++ title) t

/-- Reads a scalar. -/
def readScalar : (s : Scalar) → Tree → Result s.Carrier
  | .text, .leaf _ (.text s) => .ok s
  | .text, t => unexpected "a string" t
  | .flag, .leaf _ (.flag b) => .ok b
  | .flag, t => unexpected "a boolean" t
  | .integer w, t => readWhole w t
  | .choice _, t => readWhole .i32 t
  | .keyword first others, t => readWord "LogFormat" first others t

/-- Reads the items of a list, each under its position. -/
def readItemsFrom {α : Type} (item : Tree → Result α) (position : Nat) : List Tree → Result (List α)
  | [] => .ok []
  | t :: rest => do
    let a ← within (toString position) (item t)
    let as ← readItemsFrom item (position + 1) rest
    .ok (a :: as)

/-- Reads a list. -/
def readSequence {α : Type} (item : Tree → Result α) : Tree → Result (List α)
  | .list _ items => readItemsFrom item 0 items
  | t => unexpected "a sequence" t

/-- Reads the entries of a table into the slots of a record; names that it does not know are left
    out. -/
def readNamed {σ : Type} (put : String → Tree → σ → Result σ) :
    List (String × Tree) → σ → Result σ
  | [], slots => .ok slots
  | (name, t) :: rest, slots => do
    let slots ← put name t slots
    readNamed put rest slots

/-- Reads a record, as a table or as the list of its fields. -/
def readGroup (title : String) (fs : Fields) (put : String → Tree → fs.Slots → Result fs.Slots)
    (items : List Tree → Result fs.Carrier) : Tree → Result fs.Carrier
  | .table _ entries => do
    let slots ← readNamed put entries fs.vacant
    .ok (fs.filled slots)
  | .list _ ts => items ts
  | t => unexpected ("struct " ++ title) t

mutual

/-- Reads a field. -/
def readShape : (sh : Shape) → Tree → Result sh.Carrier
  | .one s _, t => readScalar s t
  | .many s _, t => readSequence (readScalar s) t
  | .maybe title fs, t => do
    let c ← readGroup title fs (putNamed fs) (readListed fs 0) t
    .ok (some c)
  | .each title fs, t => readSequence (readGroup title fs (putNamed fs) (readListed fs 0)) t
  | .group title fs, t => readGroup title fs (putNamed fs) (readListed fs 0) t

/-- Reads the entry of that name into its slot, if a field has the name. -/
def putNamed : (fs : Fields) → String → Tree → fs.Slots → Result fs.Slots
  | .nil, _, _, slots => .ok slots
  | .cons field sh rest, name, t, slots =>
    if name = field then do
      let value ← within name (readShape sh t)
      .ok (some value, slots.2)
    else do
      let more ← putNamed rest name t slots.2
      .ok (slots.1, more)

/-- Reads the fields from a list in the order of declaration; what is left of the list is ignored. -/
def readListed : (fs : Fields) → Nat → List Tree → Result fs.Carrier
  | .nil, _, _ => .ok ()
  | .cons _ sh rest, position, [] => do
    let more ← readListed rest (position + 1) []
    .ok (sh.default, more)
  | .cons _ sh rest, position, t :: ts => do
    let value ← within (toString position) (readShape sh t)
    let more ← readListed rest (position + 1) ts
    .ok (value, more)

end

/-- The record of a tree of given settings. -/
def readSettings (α : Type) [Record α] (t : Tree) : Result α := do
  let c ← readShape (.part α) t
  .ok (Record.pack c)

end Rebac.Config
