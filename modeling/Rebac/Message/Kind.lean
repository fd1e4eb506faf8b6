import Rebac.Message.Format

namespace Rebac.Message

open Record

/-!
# Kinds of messages

The messages of the service, so that something can be said of all of them.

* `Kind` are the kinds, `Kind.Carrier` the messages of a kind; every message is a record.
-/

/-- The kinds of messages. -/
inductive Kind where
  | entity
  | subject
  | tuple
  | entityFilter
  | subjectFilter
  | tupleFilter
  | checkMetadata
  | checkRequest
  | checkCost
  | checkResponse
  | lookupMetadata
  | lookupRequest
  | lookupResponse
  | schemaWriteRequest
  | schemaWriteResponse
  | schemaReadMetadata
  | schemaReadRequest
  | schemaReadResponse
  | dataWriteMetadata
  | dataWriteRequest
  | dataWriteResponse
  | relationshipReadMetadata
  | relationshipReadRequest
  | relationshipReadResponse
  | dataDeleteRequest
  | dataDeleteResponse
  | tenant
  | tenantCreateRequest
  | tenantCreateResponse
  | tenantDeleteRequest
  | tenantDeleteResponse
  | tenantListRequest
  | tenantListResponse
  | dataChange
  | dataChanges
  | watchRequest
  | watchResponse
  deriving DecidableEq

namespace Kind

/-- The messages of a kind. -/
@[reducible]
def Carrier : Kind → Type
  | entity => Entity
  | subject => Subject
  | tuple => Tuple
  | entityFilter => EntityFilter
  | subjectFilter => SubjectFilter
  | tupleFilter => TupleFilter
  | checkMetadata => CheckMetadata
  | checkRequest => CheckRequest
  | checkCost => CheckCost
  | checkResponse => CheckResponse
  | lookupMetadata => LookupMetadata
  | lookupRequest => LookupRequest
  | lookupResponse => LookupResponse
  | schemaWriteRequest => SchemaWriteRequest
  | schemaWriteResponse => SchemaWriteResponse
  | schemaReadMetadata => SchemaReadMetadata
  | schemaReadRequest => SchemaReadRequest
  | schemaReadResponse => SchemaReadResponse
  | dataWriteMetadata => DataWriteMetadata
  | dataWriteRequest => DataWriteRequest
  | dataWriteResponse => DataWriteResponse
  | relationshipReadMetadata => RelationshipReadMetadata
  | relationshipReadRequest => RelationshipReadRequest
  | relationshipReadResponse => RelationshipReadResponse
  | dataDeleteRequest => DataDeleteRequest
  | dataDeleteResponse => DataDeleteResponse
  | tenant => Tenant
  | tenantCreateRequest => TenantCreateRequest
  | tenantCreateResponse => TenantCreateResponse
  | tenantDeleteRequest => TenantDeleteRequest
  | tenantDeleteResponse => TenantDeleteResponse
  | tenantListRequest => TenantListRequest
  | tenantListResponse => TenantListResponse
  | dataChange => DataChange
  | dataChanges => DataChanges
  | watchRequest => WatchRequest
  | watchResponse => WatchResponse

/-- Every message is a record. -/
instance record : (k : Kind) → Record k.Carrier
  | entity => inferInstanceAs (Record Entity)
  | subject => inferInstanceAs (Record Subject)
  | tuple => inferInstanceAs (Record Tuple)
  | entityFilter => inferInstanceAs (Record EntityFilter)
  | subjectFilter => inferInstanceAs (Record SubjectFilter)
  | tupleFilter => inferInstanceAs (Record TupleFilter)
  | checkMetadata => inferInstanceAs (Record CheckMetadata)
  | checkRequest => inferInstanceAs (Record CheckRequest)
  | checkCost => inferInstanceAs (Record CheckCost)
  | checkResponse => inferInstanceAs (Record CheckResponse)
  | lookupMetadata => inferInstanceAs (Record LookupMetadata)
  | lookupRequest => inferInstanceAs (Record LookupRequest)
  | lookupResponse => inferInstanceAs (Record LookupResponse)
  | schemaWriteRequest => inferInstanceAs (Record SchemaWriteRequest)
  | schemaWriteResponse => inferInstanceAs (Record SchemaWriteResponse)
  | schemaReadMetadata => inferInstanceAs (Record SchemaReadMetadata)
  | schemaReadRequest => inferInstanceAs (Record SchemaReadRequest)
  | schemaReadResponse => inferInstanceAs (Record SchemaReadResponse)
  | dataWriteMetadata => inferInstanceAs (Record DataWriteMetadata)
  | dataWriteRequest => inferInstanceAs (Record DataWriteRequest)
  | dataWriteResponse => inferInstanceAs (Record DataWriteResponse)
  | relationshipReadMetadata => inferInstanceAs (Record RelationshipReadMetadata)
  | relationshipReadRequest => inferInstanceAs (Record RelationshipReadRequest)
  | relationshipReadResponse => inferInstanceAs (Record RelationshipReadResponse)
  | dataDeleteRequest => inferInstanceAs (Record DataDeleteRequest)
  | dataDeleteResponse => inferInstanceAs (Record DataDeleteResponse)
  | tenant => inferInstanceAs (Record Tenant)
  | tenantCreateRequest => inferInstanceAs (Record TenantCreateRequest)
  | tenantCreateResponse => inferInstanceAs (Record TenantCreateResponse)
  | tenantDeleteRequest => inferInstanceAs (Record TenantDeleteRequest)
  | tenantDeleteResponse => inferInstanceAs (Record TenantDeleteResponse)
  | tenantListRequest => inferInstanceAs (Record TenantListRequest)
  | tenantListResponse => inferInstanceAs (Record TenantListResponse)
  | dataChange => inferInstanceAs (Record DataChange)
  | dataChanges => inferInstanceAs (Record DataChanges)
  | watchRequest => inferInstanceAs (Record WatchRequest)
  | watchResponse => inferInstanceAs (Record WatchResponse)

end Kind

end Rebac.Message
