import Mathlib
import WebhookClient.Proofs.Json.ByName
import WebhookClient.Records.Catalog

/-!
# Records are read by name

A service may write the members of a record in any order and add members that the record does not
have; it may not write a member of the record twice. Main statement: `readsByName_records`.
-/

set_option autoImplicit false

namespace WebhookClient

open Json

/-- A type of the service that is read from objects, and the names of its members. -/
structure RecordType extends WireType where
  names : List String

namespace RecordType

/-- A record has the members of its fields. -/
def ofRecord (α : Type) [Record α] [BEq α] : RecordType := ⟨⟨α⟩, (Record.fields (α := α)).names⟩

/-- A record that holds another one has the members of both. -/
def ofFlattened (α : Type) {ι : Type} [Record ι] [Flattened α ι] [BEq α] : RecordType :=
  ⟨⟨α⟩, (Flattened.allFields α).names⟩

/-- The types of the service that are read from objects, pages apart, by name. -/
def catalog : List (String × RecordType) :=
  [("ApplicationIn", ofRecord ApplicationIn),
   ("ApplicationOut", ofRecord ApplicationOut),
   ("ApplicationPatch", ofRecord ApplicationPatch),
   ("AppPortalAccessIn", ofRecord AppPortalAccessIn),
   ("AppPortalAccessOut", ofRecord AppPortalAccessOut),
   ("ApplicationTokenExpireIn", ofRecord ApplicationTokenExpireIn),
   ("DashboardAccessOut", ofRecord DashboardAccessOut),
   ("BackgroundTaskOut", ofRecord BackgroundTaskOut),
   ("HttpErrorOut", ofRecord ServiceError),
   ("HttpValidationError", ofRecord ValidationFailure),
   ("ValidationErrorItem", ofRecord RejectedField),
   ("EndpointIn", ofRecord EndpointIn),
   ("EndpointUpdate", ofRecord EndpointUpdate),
   ("EndpointPatch", ofRecord EndpointPatch),
   ("EndpointOut", ofRecord EndpointOut),
   ("EndpointSecretOut", ofRecord EndpointSecretOut),
   ("EndpointSecretRotateIn", ofRecord EndpointSecretRotateIn),
   ("RecoverIn", ofRecord RecoverIn),
   ("ReplayIn", ofRecord ReplayIn),
   ("EndpointHeadersIn", ofRecord EndpointHeadersIn),
   ("EndpointHeadersOut", ofRecord EndpointHeadersOut),
   ("EventExampleIn", ofRecord EventExampleIn),
   ("EventTypeIn", ofRecord EventTypeIn),
   ("EventTypeOut", ofRecord EventTypeOut),
   ("EventTypeUpdate", ofRecord EventTypeUpdate),
   ("EventTypePatch", ofRecord EventTypePatch),
   ("IntegrationIn", ofRecord IntegrationIn),
   ("IntegrationUpdate", ofRecord IntegrationUpdate),
   ("IntegrationOut", ofRecord IntegrationOut),
   ("IntegrationKeyOut", ofRecord IntegrationKeyOut),
   ("MessageIn", ofRecord MessageIn),
   ("MessageOut", ofRecord MessageOut),
   ("MessageAttemptOut", ofRecord MessageAttemptOut),
   ("EndpointMessageOut", ofFlattened EndpointMessageOut),
   ("MessageEndpointOut", ofRecord MessageEndpointOut),
   ("OperationalWebhookEndpointIn", ofRecord OperationalWebhookEndpointIn),
   ("OperationalWebhookEndpointUpdate", ofRecord OperationalWebhookEndpointUpdate),
   ("OperationalWebhookEndpointOut", ofRecord OperationalWebhookEndpointOut),
   ("OperationalWebhookEndpointSecretOut", ofRecord OperationalWebhookEndpointSecretOut),
   ("OperationalWebhookEndpointSecretIn", ofRecord OperationalWebhookEndpointSecretIn),
   ("AppUsageStatsIn", ofRecord AppUsageStatsIn),
   ("AppUsageStatsOut", ofRecord AppUsageStatsOut)]

/-- The types of the service that are enumerations, and are not read from objects. -/
def enumerations : List String :=
  ["BackgroundTaskStatus", "BackgroundTaskType", "Ordering", "MessageStatus", "StatusCodeClass",
    "MessageAttemptTriggerType"]

/-- The type is read by the names of its members. -/
def IsReadByName (t : RecordType) : Prop :=
  let _ := t.wire
  ReadsByName t.carrier t.names

section

variable {α : Type} [BEq α]

theorem isReadByName_ofRecord [Record α]
    (hnames : (Record.fields (α := α)).names.Nodup := by decide) : (ofRecord α).IsReadByName :=
  (Record.isReadAlong hnames).readsByName

theorem isReadByName_ofFlattened {ι : Type} [Record ι] [Flattened α ι]
    (hnames : (Flattened.allFields α).names.Nodup := by decide) : (ofFlattened α).IsReadByName :=
  (Flattened.isReadAlong hnames).readsByName

end

theorem isReadByName_of_mem_catalog : ∀ e ∈ catalog, e.2.IsReadByName := by
  unfold catalog
  iterate 33 refine List.forall_mem_cons.2 ⟨isReadByName_ofRecord, ?_⟩
  refine List.forall_mem_cons.2 ⟨isReadByName_ofFlattened, ?_⟩
  iterate 8 refine List.forall_mem_cons.2 ⟨isReadByName_ofRecord, ?_⟩
  exact List.forall_mem_nil _

end RecordType

/-- The catalog is that of all types of the service but the enumerations, and these types and pages
of any values are read by the names of their members. -/
theorem readsByName_records :
    (RecordType.catalog.map fun e => (e.1, e.2.toWireType)) =
        WireType.catalog.filter (fun e => e.1 ∉ RecordType.enumerations) ∧
      (∀ e ∈ RecordType.catalog, e.2.IsReadByName) ∧
      ∀ (α : Type) [Wire α], ReadsByName (Page α) ["data", "done", "iterator", "prevIterator"] := by
  refine ⟨rfl, RecordType.isReadByName_of_mem_catalog, fun α _ => ?_⟩
  have hnames : (Record.fields (α := Page α)).names.Nodup :=
    (by decide : ["data", "done", "iterator", "prevIterator"].Nodup)
  exact (Record.isReadAlong hnames).readsByName

/-- A member that is not known is passed over, and one that is known is not taken twice. -/
example :
    decode (α := EndpointSecretOut) "\x7b\"since\":[0],\"key\":\"a\"\x7d" = .ok ⟨"a"⟩ ∧
      decode (α := EndpointSecretOut) "\x7b\"key\":\"a\",\"key\":\"a\"\x7d" =
        .error (.duplicateMember "key") := by
  constructor <;> cbv

end WebhookClient
