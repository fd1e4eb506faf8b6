import Rebac.Record.Shape

namespace Rebac.Message

open Record

/-!
# Tenants

A tenant is registered under an id, with a name and the time of its registration.
-/

/-- A registered tenant. -/
structure Tenant where
  /-- Its id. -/
  id : String := ""
  /-- Its name. -/
  name : String := ""
  /-- The time of its registration, in seconds. -/
  createdAt : Int64 := 0
  deriving DecidableEq

instance : Record Tenant where
  title := "Tenant"
  fields := .ofList [("id", .text), ("name", .text), ("created_at", .integer .i64)]
  unpack m := (m.id, m.name, m.createdAt, ())
  pack c := ⟨c.1, c.2.1, c.2.2.1⟩
  pack_unpack _ := rfl
  unpack_pack _ := rfl

/-- Registers a tenant. -/
structure TenantCreateRequest where
  /-- The id of the tenant. -/
  id : String := ""
  /-- The name of the tenant. -/
  name : String := ""

instance : Record TenantCreateRequest where
  title := "TenantCreateRequest"
  fields := .ofList [("id", .text), ("name", .text)]
  unpack m := (m.id, m.name, ())
  pack c := ⟨c.1, c.2.1⟩
  pack_unpack _ := rfl
  unpack_pack _ := rfl

/-- The tenant that was registered. -/
structure TenantCreateResponse where
  /-- The tenant. -/
  tenant : Option Tenant := none

instance : Record TenantCreateResponse where
  title := "TenantCreateResponse"
  fields := .ofList [("tenant", .record Tenant)]
  unpack m := (unpackOption m.tenant, ())
  pack c := ⟨packOption c.1⟩
  pack_unpack _ := by simp
  unpack_pack _ := by simp

/-- Removes a tenant. -/
structure TenantDeleteRequest where
  /-- The id of the tenant. -/
  id : String := ""

instance : Record TenantDeleteRequest where
  title := "TenantDeleteRequest"
  fields := .ofList [("id", .text)]
  unpack m := (m.id, ())
  pack c := ⟨c.1⟩
  pack_unpack _ := rfl
  unpack_pack _ := rfl

/-- The tenant that was removed. -/
structure TenantDeleteResponse where
  /-- The tenant. -/
  tenant : Option Tenant := none

instance : Record TenantDeleteResponse where
  title := "TenantDeleteResponse"
  fields := .ofList [("tenant", .record Tenant)]
  unpack m := (unpackOption m.tenant, ())
  pack c := ⟨packOption c.1⟩
  pack_unpack _ := by simp
  unpack_pack _ := by simp

/-- Lists the tenants. -/
structure TenantListRequest where
  /-- The size of a page; zero for the default. -/
  pageSize : UInt32 := 0
  /-- Where to go on; empty for the first page. -/
  continuousToken : String := ""

instance : Record TenantListRequest where
  title := "TenantListRequest"
  fields := .ofList [("page_size", .integer .u32), ("continuous_token", .text)]
  unpack m := (m.pageSize, m.continuousToken, ())
  pack c := ⟨c.1, c.2.1⟩
  pack_unpack _ := rfl
  unpack_pack _ := rfl

/-- One page of tenants. -/
structure TenantListResponse where
  /-- The tenants. -/
  tenants : List Tenant := []
  /-- Where the next page starts; empty after the last. -/
  continuousToken : String := ""

instance : Record TenantListResponse where
  title := "TenantListResponse"
  fields := .ofList [("tenants", .records Tenant), ("continuous_token", .text)]
  unpack m := (unpackList m.tenants, m.continuousToken, ())
  pack c := ⟨packList c.1, c.2.1⟩
  pack_unpack _ := by simp
  unpack_pack _ := by simp

end Rebac.Message
