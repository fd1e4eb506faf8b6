import Rebac.Message.Relation

namespace Rebac.Message

open Record

/-!
# Relationship data

Writing, reading and deleting the relationships of a tenant. Every change gives a snapshot token.
-/

/-- How relationships are written. -/
structure DataWriteMetadata where
  /-- The version of the schema to use. -/
  schemaVersion : String := ""

instance : Record DataWriteMetadata where
  title := "DataWriteRequestMetadata"
  fields := .ofList [("schema_version", .text)]
  unpack m := (m.schemaVersion, ())
  pack c := ⟨c.1⟩
  pack_unpack _ := rfl
  unpack_pack _ := rfl

/-- Stores relationships. -/
structure DataWriteRequest where
  /-- The tenant that is asked. -/
  tenantId : String := ""
  /-- How to write. -/
  metadata : Option DataWriteMetadata := none
  /-- The relationships. -/
  tuples : List Tuple := []

instance : Record DataWriteRequest where
  title := "DataWriteRequest"
  fields := .ofList [
    ("tenant_id", .text), ("metadata", .record DataWriteMetadata), ("tuples", .records Tuple)]
  unpack m := (m.tenantId, unpackOption m.metadata, unpackList m.tuples, ())
  pack c := ⟨c.1, packOption c.2.1, packList c.2.2.1⟩
  pack_unpack _ := by simp
  unpack_pack _ := by simp

/-- The snapshot after a write. -/
structure DataWriteResponse where
  /-- The token of the snapshot. -/
  snapToken : String := ""

instance : Record DataWriteResponse where
  title := "DataWriteResponse"
  fields := .ofList [("snap_token", .text)]
  unpack m := (m.snapToken, ())
  pack c := ⟨c.1⟩
  pack_unpack _ := rfl
  unpack_pack _ := rfl

/-- How relationships are read. -/
structure RelationshipReadMetadata where
  /-- The snapshot to read from. -/
  snapToken : String := ""

instance : Record RelationshipReadMetadata where
  title := "RelationshipReadRequestMetadata"
  fields := .ofList [("snap_token", .text)]
  unpack m := (m.snapToken, ())
  pack c := ⟨c.1⟩
  pack_unpack _ := rfl
  unpack_pack _ := rfl

/-- Reads the relationships that a filter selects. -/
structure RelationshipReadRequest where
  /-- The tenant that is asked. -/
  tenantId : String := ""
  /-- How to read. -/
  metadata : Option RelationshipReadMetadata := none
  /-- Which relationships to read. -/
  filter : Option TupleFilter := none
  /-- The size of a page; zero for the default. -/
  pageSize : UInt32 := 0
  /-- Where to go on; empty for the first page. -/
  continuousToken : String := ""

instance : Record RelationshipReadRequest where
  title := "RelationshipReadRequest"
  fields := .ofList [
    ("tenant_id", .text), ("metadata", .record RelationshipReadMetadata),
    ("filter", .record TupleFilter), ("page_size", .integer .u32), ("continuous_token", .text)]
  unpack m :=
    (m.tenantId, unpackOption m.metadata, unpackOption m.filter, m.pageSize,
      m.continuousToken, ())
  pack c := ⟨c.1, packOption c.2.1, packOption c.2.2.1, c.2.2.2.1, c.2.2.2.2.1⟩
  pack_unpack _ := by simp
  unpack_pack _ := by simp

/-- One page of relationships. -/
structure RelationshipReadResponse where
  /-- The relationships. -/
  tuples : List Tuple := []
  /-- Where the next page starts; empty after the last. -/
  continuousToken : String := ""

instance : Record RelationshipReadResponse where
  title := "RelationshipReadResponse"
  fields := .ofList [("tuples", .records Tuple), ("continuous_token", .text)]
  unpack m := (unpackList m.tuples, m.continuousToken, ())
  pack c := ⟨packList c.1, c.2.1⟩
  pack_unpack _ := by simp
  unpack_pack _ := by simp

/-- Removes the relationships that a filter selects. -/
structure DataDeleteRequest where
  /-- The tenant that is asked. -/
  tenantId : String := ""
  /-- Which relationships to remove. -/
  tupleFilter : Option TupleFilter := none

instance : Record DataDeleteRequest where
  title := "DataDeleteRequest"
  fields := .ofList [("tenant_id", .text), ("tuple_filter", .record TupleFilter)]
  unpack m := (m.tenantId, unpackOption m.tupleFilter, ())
  pack c := ⟨c.1, packOption c.2.1⟩
  pack_unpack _ := by simp
  unpack_pack _ := by simp

/-- The snapshot after a removal. -/
structure DataDeleteResponse where
  /-- The token of the snapshot. -/
  snapToken : String := ""

instance : Record DataDeleteResponse where
  title := "DataDeleteResponse"
  fields := .ofList [("snap_token", .text)]
  unpack m := (m.snapToken, ())
  pack c := ⟨c.1⟩
  pack_unpack _ := rfl
  unpack_pack _ := rfl

end Rebac.Message
