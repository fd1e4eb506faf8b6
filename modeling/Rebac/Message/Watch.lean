import Rebac.Message.Relation

namespace Rebac.Message

open Record

/-!
# Changes

A watcher of a tenant receives its change sets: what one write or removal has changed.
-/

/-- What happened to a relationship. Numbers without a name are kept as they are. -/
structure ChangeKind where
  /-- The number of the value. -/
  code : Int32
  deriving DecidableEq

namespace ChangeKind

/-- Nothing is said. -/
def unspecified : ChangeKind := ⟨0⟩

/-- The relationship was stored. -/
def create : ChangeKind := ⟨1⟩

/-- The relationship was removed. -/
def delete : ChangeKind := ⟨2⟩

/-- The names of the values. -/
def names : Record.Enumeration where
  title := "crate::proto::DataChangeOperation"
  names := [
    "DATA_CHANGE_OPERATION_UNSPECIFIED", "DATA_CHANGE_OPERATION_CREATE",
    "DATA_CHANGE_OPERATION_DELETE"]

end ChangeKind

/-- A change of one relationship. -/
structure DataChange where
  /-- What happened. -/
  operation : ChangeKind := .unspecified
  /-- The relationship. -/
  tuple : Option Tuple := none
  deriving DecidableEq

instance : Record DataChange where
  title := "DataChange"
  fields := .ofList [("operation", .choice ChangeKind.names), ("tuple", .record Tuple)]
  unpack m := (m.operation.code, unpackOption m.tuple, ())
  pack c := ⟨⟨c.1⟩, packOption c.2.1⟩
  pack_unpack _ := by simp
  unpack_pack _ := by simp

/-- The changes of one write or removal. -/
structure DataChanges where
  /-- The token of the snapshot after it. -/
  snapToken : String := ""
  /-- The changes, in their order. -/
  dataChanges : List DataChange := []
  deriving DecidableEq

instance : Record DataChanges where
  title := "DataChanges"
  fields := .ofList [("snap_token", .text), ("data_changes", .records DataChange)]
  unpack m := (m.snapToken, unpackList m.dataChanges, ())
  pack c := ⟨c.1, packList c.2.1⟩
  pack_unpack _ := by simp
  unpack_pack _ := by simp

/-- Asks for the changes of a tenant. -/
structure WatchRequest where
  /-- The tenant to watch. -/
  tenantId : String := ""
  /-- The snapshot to start from. -/
  snapToken : String := ""

instance : Record WatchRequest where
  title := "WatchRequest"
  fields := .ofList [("tenant_id", .text), ("snap_token", .text)]
  unpack m := (m.tenantId, m.snapToken, ())
  pack c := ⟨c.1, c.2.1⟩
  pack_unpack _ := rfl
  unpack_pack _ := rfl

/-- A change set in a feed. -/
structure WatchResponse where
  /-- The changes. -/
  changes : Option DataChanges := none

instance : Record WatchResponse where
  title := "WatchResponse"
  fields := .ofList [("changes", .record DataChanges)]
  unpack m := (unpackOption m.changes, ())
  pack c := ⟨packOption c.1⟩
  pack_unpack _ := by simp
  unpack_pack _ := by simp

end Rebac.Message
