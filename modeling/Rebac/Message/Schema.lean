import Rebac.Record.Shape

namespace Rebac.Message

open Record

/-!
# Authorization schemas

A tenant has a history of schema texts, each under a version.
-/

/-- Stores a schema. -/
structure SchemaWriteRequest where
  /-- The tenant that is asked. -/
  tenantId : String := ""
  /-- The text of the schema. -/
  schema : String := ""

instance : Record SchemaWriteRequest where
  title := "SchemaWriteRequest"
  fields := .ofList [("tenant_id", .text), ("schema", .text)]
  unpack m := (m.tenantId, m.schema, ())
  pack c := ⟨c.1, c.2.1⟩
  pack_unpack _ := rfl
  unpack_pack _ := rfl

/-- The version of a stored schema. -/
structure SchemaWriteResponse where
  /-- The version. -/
  schemaVersion : String := ""

instance : Record SchemaWriteResponse where
  title := "SchemaWriteResponse"
  fields := .ofList [("schema_version", .text)]
  unpack m := (m.schemaVersion, ())
  pack c := ⟨c.1⟩
  pack_unpack _ := rfl
  unpack_pack _ := rfl

/-- Which schema is read. -/
structure SchemaReadMetadata where
  /-- The version; empty for the latest. -/
  schemaVersion : String := ""

instance : Record SchemaReadMetadata where
  title := "SchemaReadRequestMetadata"
  fields := .ofList [("schema_version", .text)]
  unpack m := (m.schemaVersion, ())
  pack c := ⟨c.1⟩
  pack_unpack _ := rfl
  unpack_pack _ := rfl

/-- Reads a schema. -/
structure SchemaReadRequest where
  /-- The tenant that is asked. -/
  tenantId : String := ""
  /-- Which schema to read. -/
  metadata : Option SchemaReadMetadata := none

instance : Record SchemaReadRequest where
  title := "SchemaReadRequest"
  fields := .ofList [("tenant_id", .text), ("metadata", .record SchemaReadMetadata)]
  unpack m := (m.tenantId, unpackOption m.metadata, ())
  pack c := ⟨c.1, packOption c.2.1⟩
  pack_unpack _ := by simp
  unpack_pack _ := by simp

/-- A schema with its version. -/
structure SchemaReadResponse where
  /-- The text of the schema. -/
  schema : String := ""
  /-- The version. -/
  schemaVersion : String := ""

instance : Record SchemaReadResponse where
  title := "SchemaReadResponse"
  fields := .ofList [("schema", .text), ("schema_version", .text)]
  unpack m := (m.schema, m.schemaVersion, ())
  pack c := ⟨c.1, c.2.1⟩
  pack_unpack _ := rfl
  unpack_pack _ := rfl

end Rebac.Message
