import Rebac.Message.Relation

namespace Rebac.Message

open Record

/-!
# Permission questions

A check asks whether a subject has a permission on an entity; a look-up asks on which entities of a
kind it has the permission.
-/

/-- The answer to a check. Numbers without a name are kept as they are. -/
structure CheckResult where
  /-- The number of the value. -/
  code : Int32
  deriving DecidableEq

namespace CheckResult

/-- No answer. -/
def unspecified : CheckResult := ⟨0⟩

/-- The subject has the permission. -/
def allowed : CheckResult := ⟨1⟩

/-- The subject does not have the permission. -/
def denied : CheckResult := ⟨2⟩

/-- The names of the values. -/
def names : Record.Enumeration where
  title := "crate::proto::CheckResult"
  names := ["CHECK_RESULT_UNSPECIFIED", "CHECK_RESULT_ALLOWED", "CHECK_RESULT_DENIED"]

end CheckResult

/-- How a check is to be evaluated. -/
structure CheckMetadata where
  /-- The version of the schema to use. -/
  schemaVersion : String := ""
  /-- The snapshot to read from; empty for the latest. -/
  snapToken : String := ""
  /-- How deep the evaluation may go. -/
  depth : Int32 := 0

instance : Record CheckMetadata where
  title := "PermissionCheckRequestMetadata"
  fields := .ofList [("schema_version", .text), ("snap_token", .text), ("depth", .integer .i32)]
  unpack m := (m.schemaVersion, m.snapToken, m.depth, ())
  pack c := ⟨c.1, c.2.1, c.2.2.1⟩
  pack_unpack _ := rfl
  unpack_pack _ := rfl

/-- Asks whether the subject has the permission on the entity. -/
structure CheckRequest where
  /-- The tenant that is asked. -/
  tenantId : String := ""
  /-- How to evaluate the check. -/
  metadata : Option CheckMetadata := none
  /-- What the permission is on. -/
  entity : Option Entity := none
  /-- The permission. -/
  permission : String := ""
  /-- Who is to have the permission. -/
  subject : Option Subject := none

instance : Record CheckRequest where
  title := "PermissionCheckRequest"
  fields := .ofList [
    ("tenant_id", .text), ("metadata", .record CheckMetadata), ("entity", .record Entity),
    ("permission", .text), ("subject", .record Subject)]
  unpack m :=
    (m.tenantId, unpackOption m.metadata, unpackOption m.entity, m.permission,
      unpackOption m.subject, ())
  pack c := ⟨c.1, packOption c.2.1, packOption c.2.2.1, c.2.2.2.1, packOption c.2.2.2.2.1⟩
  pack_unpack _ := by simp
  unpack_pack _ := by simp

/-- What a check has cost. -/
structure CheckCost where
  /-- The number of look-ups. -/
  checkCount : Int32 := 0

instance : Record CheckCost where
  title := "PermissionCheckResponseMetadata"
  fields := .ofList [("check_count", .integer .i32)]
  unpack m := (m.checkCount, ())
  pack c := ⟨c.1⟩
  pack_unpack _ := rfl
  unpack_pack _ := rfl

/-- The answer to a check. -/
structure CheckResponse where
  /-- Whether the subject has the permission. -/
  can : CheckResult := .unspecified
  /-- What the check has cost. -/
  metadata : Option CheckCost := none

instance : Record CheckResponse where
  title := "PermissionCheckResponse"
  fields := .ofList [("can", .choice CheckResult.names), ("metadata", .record CheckCost)]
  unpack m := (m.can.code, unpackOption m.metadata, ())
  pack c := ⟨⟨c.1⟩, packOption c.2.1⟩
  pack_unpack _ := by simp
  unpack_pack _ := by simp

/-- How a look-up is to be evaluated. -/
structure LookupMetadata where
  /-- The version of the schema to use. -/
  schemaVersion : String := ""
  /-- The snapshot to read from; empty for the latest. -/
  snapToken : String := ""
  /-- How deep the evaluation may go. -/
  depth : Int32 := 0

instance : Record LookupMetadata where
  title := "PermissionLookupEntityRequestMetadata"
  fields := .ofList [("schema_version", .text), ("snap_token", .text), ("depth", .integer .i32)]
  unpack m := (m.schemaVersion, m.snapToken, m.depth, ())
  pack c := ⟨c.1, c.2.1, c.2.2.1⟩
  pack_unpack _ := rfl
  unpack_pack _ := rfl

/-- Asks on which entities of a kind the subject has the permission. -/
structure LookupRequest where
  /-- The tenant that is asked. -/
  tenantId : String := ""
  /-- How to evaluate the look-up. -/
  metadata : Option LookupMetadata := none
  /-- The kind of entity. -/
  entityType : String := ""
  /-- The permission. -/
  permission : String := ""
  /-- Who is to have the permission. -/
  subject : Option Subject := none
  /-- The size of a page; zero for the default. -/
  pageSize : UInt32 := 0
  /-- Where to go on; empty for the first page. -/
  continuousToken : String := ""

instance : Record LookupRequest where
  title := "PermissionLookupEntityRequest"
  fields := .ofList [
    ("tenant_id", .text), ("metadata", .record LookupMetadata), ("entity_type", .text),
    ("permission", .text), ("subject", .record Subject), ("page_size", .integer .u32),
    ("continuous_token", .text)]
  unpack m :=
    (m.tenantId, unpackOption m.metadata, m.entityType, m.permission, unpackOption m.subject,
      m.pageSize, m.continuousToken, ())
  pack c :=
    ⟨c.1, packOption c.2.1, c.2.2.1, c.2.2.2.1, packOption c.2.2.2.2.1, c.2.2.2.2.2.1,
      c.2.2.2.2.2.2.1⟩
  pack_unpack _ := by simp
  unpack_pack _ := by simp

/-- One page of entities. -/
structure LookupResponse where
  /-- The names of the entities. -/
  entityIds : List String := []
  /-- Where the next page starts; empty after the last. -/
  continuousToken : String := ""

instance : Record LookupResponse where
  title := "PermissionLookupEntityResponse"
  fields := .ofList [("entity_ids", .texts), ("continuous_token", .text)]
  unpack m := (m.entityIds, m.continuousToken, ())
  pack c := ⟨c.1, c.2.1⟩
  pack_unpack _ := rfl
  unpack_pack _ := rfl

end Rebac.Message
