import Rebac.Rule.Name
import Rebac.Text.Quoted
import Rebac.Text.Blank

namespace Rebac.Rule

/-!
# Rules

A message is checked by a list of rules in a fixed order. A rule that depends on an optional part is
in the list only if the part is there; that the part must be there is a rule of its own before them.

* `Rule` is a rule applied to a message: the field it is about and whether it holds.
* `firstBroken` is the first rule of a list that does not hold.
* `validate` is `firstBroken` for the rules of a request.
-/

/-- The largest page that may be asked for. -/
def maxPageSize : Nat := 100

/-- The largest number of relationships in one write. -/
def maxWriteTuples : Nat := 100

/-- The smallest evaluation depth. -/
def minDepth : Int := 3

/-- Why a field is refused. -/
inductive Reason where
  | notNamed (value : String) (kind : NameKind)
  | required
  | tooShallow
  | pageTooLarge
  | tooManyTuples
  | blank
  | badLength
  deriving DecidableEq

/-- The wording of a reason. -/
def Reason.message : Reason → String
  | notNamed value kind => Text.quoted value ++ " does not match " ++ kind.title
  | required => "is required"
  | tooShallow => s!"must be at least {minDepth}"
  | pageTooLarge => s!"must not exceed {maxPageSize}"
  | tooManyTuples => s!"must not exceed {maxWriteTuples} items"
  | blank => "must not be empty"
  | badLength => "must be 1 to 64 characters"

/-- A broken rule: the path of the field and the reason. -/
structure Violation where
  field : String
  reason : Reason
  deriving DecidableEq

/-- The wording of the refusal of a field. -/
def refusal (field reason : String) : String :=
  s!"invalid {field}: {reason}"

/-- The wording of a broken rule. -/
def Violation.message (v : Violation) : String :=
  refusal v.field v.reason.message

end Rebac.Rule

namespace Rebac

/-- A rule applied to a message: what is reported if it does not hold. -/
structure Rule where
  holds : Bool
  violation : Rule.Violation

end Rebac

namespace Rebac.Rule

/-- The first rule of a list that does not hold. -/
def firstBroken : List Rule → Option Violation
  | [] => none
  | r :: rest => if r.holds then firstBroken rest else some r.violation

/-- No rule is broken exactly if all of them hold. -/
theorem firstBroken_eq_none_iff {rules : List Rule} :
    firstBroken rules = none ↔ ∀ r ∈ rules, r.holds = true := by
  induction rules with
  | nil => simp [firstBroken]
  | cons r rest ih => by_cases h : r.holds <;> simp [firstBroken, h, ih]

/-! ### Rules for single fields -/

/-- A string must be a name of the given kind. -/
def named (kind : NameKind) (field value : String) : Rule :=
  ⟨kind.accepts value, ⟨field, .notNamed value kind⟩⟩

/-- A string may be empty, otherwise it must be a name of the given kind. -/
def namedIfGiven (kind : NameKind) (field value : String) : List Rule :=
  if value.isEmpty then [] else [named kind field value]

/-- An optional part must be there. -/
def present {α : Type} (field : String) (value : Option α) : Rule :=
  ⟨value.isSome, ⟨field, .required⟩⟩

/-- The rules of an optional part that must be there. -/
def required {α : Type} (field : String) (value : Option α) (rules : α → List Rule) : List Rule :=
  present field value :: (match value with
    | some a => rules a
    | none => [])

/-- The rules of an optional part that may be missing. -/
def optional {α : Type} (value : Option α) (rules : α → List Rule) : List Rule :=
  match value with
  | some a => rules a
  | none => []

/-- The rules of the items of a list, each under the path of its position. -/
def indexed {α : Type} (field : String) (rules : String → α → List Rule) (items : List α) :
    List Rule :=
  items.zipIdx.flatMap fun (a, i) => rules s!"{field}[{i}]" a

/-- An evaluation depth must not be too small. -/
def deepEnough (field : String) (depth : Int32) : Rule :=
  ⟨minDepth ≤ depth.toInt, ⟨field, .tooShallow⟩⟩

/-- A page must not be too large. -/
def smallPage (field : String) (size : UInt32) : Rule :=
  ⟨size.toNat ≤ maxPageSize, ⟨field, .pageTooLarge⟩⟩

/-! ### Requests -/

/-- A message with rules. -/
class Ruled (α : Type) where
  /-- The rules of the message, in the order in which they are checked. -/
  rules : α → List Rule

/-- The first broken rule of a message. -/
def violation? {α : Type} [Ruled α] (a : α) : Option Violation :=
  firstBroken (Ruled.rules a)

end Rebac.Rule
