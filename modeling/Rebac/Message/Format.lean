import Rebac.Message.Data
import Rebac.Message.Permission
import Rebac.Message.Schema
import Rebac.Message.Tenancy
import Rebac.Message.Watch
import Rebac.Record.Json
import Rebac.Record.Wire

namespace Rebac.Message

open Rebac.Json Rebac.Record

/-!
# Messages by title

The formats of all messages, for those who know a message by its title only.

* `formats` are all formats, `Format.ofTitle?` is the one of a title.
-/

/-- What can be done with the messages of one kind. -/
structure Format where
  title : String
  /-- Reads a JSON text and writes it again in the compact form. -/
  compact : List UInt8 → Except DecodeError String
  /-- The wire form of the message that a JSON value stands for. -/
  encode : Value → Except DecodeError (List UInt8)
  /-- The JSON value of a message in wire form. -/
  decode : List UInt8 → Option Value

/-- The format of the messages of a type. -/
def formatOf (α : Type) [Record α] : Format where
  title := Record.title α
  compact text := do
    let m ← Record.ofJson α text
    .ok (Record.toValue m).compact
  encode v := do
    let m ← Record.ofValue α v
    .ok (toWire m)
  decode bytes := (ofWire? α bytes).map Record.toValue

/-- The formats of all messages. -/
def formats : List Format := [
  formatOf Entity, formatOf Subject, formatOf Tuple, formatOf EntityFilter, formatOf SubjectFilter,
  formatOf TupleFilter, formatOf CheckMetadata, formatOf CheckRequest, formatOf CheckCost,
  formatOf CheckResponse, formatOf LookupMetadata, formatOf LookupRequest, formatOf LookupResponse,
  formatOf SchemaWriteRequest, formatOf SchemaWriteResponse, formatOf SchemaReadMetadata,
  formatOf SchemaReadRequest, formatOf SchemaReadResponse, formatOf DataWriteMetadata,
  formatOf DataWriteRequest, formatOf DataWriteResponse, formatOf RelationshipReadMetadata,
  formatOf RelationshipReadRequest, formatOf RelationshipReadResponse, formatOf DataDeleteRequest,
  formatOf DataDeleteResponse, formatOf Tenant, formatOf TenantCreateRequest,
  formatOf TenantCreateResponse, formatOf TenantDeleteRequest, formatOf TenantDeleteResponse,
  formatOf TenantListRequest, formatOf TenantListResponse, formatOf DataChange,
  formatOf DataChanges, formatOf WatchRequest, formatOf WatchResponse]

/-- The format of a title. -/
def Format.ofTitle? (title : String) : Option Format :=
  formats.find? fun f => f.title = title

end Rebac.Message
