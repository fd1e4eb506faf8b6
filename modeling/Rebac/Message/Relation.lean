import Rebac.Record.Shape

namespace Rebac.Message

open Record

/-!
# Relationships

A relationship `entity#relation@subject` says that the subject stands in the relation to the entity.
A filter selects relationships; what it leaves empty matches anything.
-/

/-- A thing that relationships are about. -/
structure Entity where
  /-- The kind of thing it is. -/
  type : String := ""
  /-- Its name among the things of that kind. -/
  id : String := ""
  deriving DecidableEq

instance : Record Entity where
  title := "Entity"
  fields := .ofList [("type", .text), ("id", .text)]
  unpack m := (m.type, m.id, ())
  pack c := ⟨c.1, c.2.1⟩
  pack_unpack _ := rfl
  unpack_pack _ := rfl

/-- One who stands in a relation: a thing, or with a relation everyone who stands in that relation
    to the thing. -/
structure Subject where
  /-- The kind of thing it is. -/
  type : String := ""
  /-- Its name among the things of that kind. -/
  id : String := ""
  /-- The relation that makes it a set of subjects; empty for the thing itself. -/
  relation : String := ""
  deriving DecidableEq

instance : Record Subject where
  title := "Subject"
  fields := .ofList [("type", .text), ("id", .text), ("relation", .text)]
  unpack m := (m.type, m.id, m.relation, ())
  pack c := ⟨c.1, c.2.1, c.2.2.1⟩
  pack_unpack _ := rfl
  unpack_pack _ := rfl

/-- A relationship. -/
structure Tuple where
  /-- What the relationship is about. -/
  entity : Option Entity := none
  /-- The relation. -/
  relation : String := ""
  /-- Who stands in the relation. -/
  subject : Option Subject := none
  deriving DecidableEq

instance : Record Tuple where
  title := "Tuple"
  fields := .ofList [
    ("entity", .record Entity), ("relation", .text), ("subject", .record Subject)]
  unpack m := (unpackOption m.entity, m.relation, unpackOption m.subject, ())
  pack c := ⟨packOption c.1, c.2.1, packOption c.2.2.1⟩
  pack_unpack _ := by simp
  unpack_pack _ := by simp

/-- Selects entities. -/
structure EntityFilter where
  /-- The kind of thing; empty for any. -/
  type : String := ""
  /-- The names to choose from; empty for any. -/
  ids : List String := []
  deriving DecidableEq

instance : Record EntityFilter where
  title := "EntityFilter"
  fields := .ofList [("type", .text), ("ids", .texts)]
  unpack m := (m.type, m.ids, ())
  pack c := ⟨c.1, c.2.1⟩
  pack_unpack _ := rfl
  unpack_pack _ := rfl

/-- Selects subjects. -/
structure SubjectFilter where
  /-- The kind of thing; empty for any. -/
  type : String := ""
  /-- The names to choose from; empty for any. -/
  ids : List String := []
  /-- The relation of the subject; empty for any. -/
  relation : String := ""
  deriving DecidableEq

instance : Record SubjectFilter where
  title := "SubjectFilter"
  fields := .ofList [("type", .text), ("ids", .texts), ("relation", .text)]
  unpack m := (m.type, m.ids, m.relation, ())
  pack c := ⟨c.1, c.2.1, c.2.2.1⟩
  pack_unpack _ := rfl
  unpack_pack _ := rfl

/-- Selects relationships. -/
structure TupleFilter where
  /-- What the relationship is about. -/
  entity : Option EntityFilter := none
  /-- The relation; empty for any. -/
  relation : String := ""
  /-- Who stands in the relation. -/
  subject : Option SubjectFilter := none
  deriving DecidableEq

instance : Record TupleFilter where
  title := "TupleFilter"
  fields := .ofList [
    ("entity", .record EntityFilter), ("relation", .text), ("subject", .record SubjectFilter)]
  unpack m := (unpackOption m.entity, m.relation, unpackOption m.subject, ())
  pack c := ⟨packOption c.1, c.2.1, packOption c.2.2.1⟩
  pack_unpack _ := by simp
  unpack_pack _ := by simp

end Rebac.Message
