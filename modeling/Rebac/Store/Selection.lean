import Rebac.Message.Relation

namespace Rebac.Store

open Rebac.Message

/-!
# Which relationships a filter selects

An empty field of a filter matches anything. A relationship without an entity or without a subject
is never selected.
-/

/-- `true` iff the pattern is empty or equal to the value. -/
def matchesText (pattern value : String) : Bool :=
  pattern.isEmpty || pattern = value

/-- `true` iff the list is empty or holds the value. -/
def matchesAny (ids : List String) (value : String) : Bool :=
  ids.isEmpty || ids.contains value

/-- `true` iff the filter selects the entity. -/
def selectsEntity (f : EntityFilter) (e : Entity) : Bool :=
  matchesText f.type e.type && matchesAny f.ids e.id

/-- `true` iff the filter selects the subject. -/
def selectsSubject (f : SubjectFilter) (s : Subject) : Bool :=
  matchesText f.type s.type && matchesAny f.ids s.id && matchesText f.relation s.relation

/-- `true` iff the filter selects the relationship. -/
def selects (f : TupleFilter) (t : Tuple) : Bool :=
  match t.entity, t.subject with
  | some e, some s =>
    f.entity.all (selectsEntity · e) && matchesText f.relation t.relation
      && f.subject.all (selectsSubject · s)
  | _, _ => false

end Rebac.Store
