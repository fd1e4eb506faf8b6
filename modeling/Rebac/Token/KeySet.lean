import Rebac.Token.Basic
import Rebac.Table

namespace Rebac.Token

/-!
# Key sets

The keys of an issuer are kept by their names.

* `KeySet.ofPublished` is the set of the keys that are published.
* `KeySet.resolve?` is the key that belongs to a name.
-/

/-- The keys of an issuer by their names. -/
abbrev KeySet := Table Key

/-- The name under which a key is kept; a key without a name has the empty one. -/
def Published.keptName (p : Published) : String := p.name.getD ""

/-- The name of the key that a token asks for; one that gives no name asks for the empty one. -/
def Header.askedName (h : Header) : String := h.keyName.getD ""

namespace KeySet

/-- The set with one more key. A later key takes the place of an earlier one of its name, and a key
    that cannot be used is left out. -/
def add (l : Library) (set : KeySet) (p : Published) : KeySet :=
  match l.key? p with
  | some key => set.set p.keptName key
  | none => set

/-- The key set of published keys. -/
def ofPublished (l : Library) (published : List Published) : KeySet :=
  published.foldl (add l) .empty

/-- The key of a name. The empty name also belongs to the only key of a set. -/
def resolve? (set : KeySet) (name : String) : Option Key :=
  match set.get? name with
  | some key => some key
  | none =>
    match set.entries with
    | [(_, key)] => if name.isEmpty then some key else none
    | _ => none

end KeySet

end Rebac.Token
