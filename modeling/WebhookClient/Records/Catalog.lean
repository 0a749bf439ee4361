import WebhookClient.Records.Access
import WebhookClient.Records.Application
import WebhookClient.Records.Attempt
import WebhookClient.Records.Endpoint
import WebhookClient.Records.EventType
import WebhookClient.Records.Integration
import WebhookClient.Records.Message
import WebhookClient.Records.OperationalWebhook
import WebhookClient.Records.Page
import WebhookClient.Records.ServiceError
import WebhookClient.Records.Task

/-!
# The catalog of types with a JSON form

All types that requests and answers are made of, by the names under which the service documents
them, and the operations that are the same for all of them.
-/

set_option autoImplicit false

namespace WebhookClient

open Json

/-- A type with a JSON form and an equality. -/
structure WireType where
  carrier : Type
  [wire : Wire carrier]
  [beq : BEq carrier]

namespace WireType

/-- Reads a text as a value of the type and writes the value again. -/
def canonicalText (t : WireType) (s : String) : Except ReadError String :=
  let _ := t.wire
  (decode (α := t.carrier) s).map encode

/-- Whether the value of a text is read again from what is written for it. -/
def roundTrips (t : WireType) (s : String) : Bool :=
  let _ := t.wire
  let _ := t.beq
  match decode (α := t.carrier) s with
  | .ok v => (decode (encode v)).toOption == some v
  | .error _ => false

/-- The types of the service by name. -/
def catalog : List (String × WireType) :=
  [("ApplicationIn", ⟨ApplicationIn⟩),
   ("ApplicationOut", ⟨ApplicationOut⟩),
   ("ApplicationPatch", ⟨ApplicationPatch⟩),
   ("AppPortalAccessIn", ⟨AppPortalAccessIn⟩),
   ("AppPortalAccessOut", ⟨AppPortalAccessOut⟩),
   ("ApplicationTokenExpireIn", ⟨ApplicationTokenExpireIn⟩),
   ("DashboardAccessOut", ⟨DashboardAccessOut⟩),
   ("BackgroundTaskOut", ⟨BackgroundTaskOut⟩),
   ("BackgroundTaskStatus", ⟨TaskStatus⟩),
   ("BackgroundTaskType", ⟨TaskKind⟩),
   ("HttpErrorOut", ⟨ServiceError⟩),
   ("HttpValidationError", ⟨ValidationFailure⟩),
   ("ValidationErrorItem", ⟨RejectedField⟩),
   ("Ordering", ⟨SortOrder⟩),
   ("EndpointIn", ⟨EndpointIn⟩),
   ("EndpointUpdate", ⟨EndpointUpdate⟩),
   ("EndpointPatch", ⟨EndpointPatch⟩),
   ("EndpointOut", ⟨EndpointOut⟩),
   ("EndpointSecretOut", ⟨EndpointSecretOut⟩),
   ("EndpointSecretRotateIn", ⟨EndpointSecretRotateIn⟩),
   ("RecoverIn", ⟨RecoverIn⟩),
   ("ReplayIn", ⟨ReplayIn⟩),
   ("EndpointHeadersIn", ⟨EndpointHeadersIn⟩),
   ("EndpointHeadersOut", ⟨EndpointHeadersOut⟩),
   ("EventExampleIn", ⟨EventExampleIn⟩),
   ("EventTypeIn", ⟨EventTypeIn⟩),
   ("EventTypeOut", ⟨EventTypeOut⟩),
   ("EventTypeUpdate", ⟨EventTypeUpdate⟩),
   ("EventTypePatch", ⟨EventTypePatch⟩),
   ("IntegrationIn", ⟨IntegrationIn⟩),
   ("IntegrationUpdate", ⟨IntegrationUpdate⟩),
   ("IntegrationOut", ⟨IntegrationOut⟩),
   ("IntegrationKeyOut", ⟨IntegrationKeyOut⟩),
   ("MessageIn", ⟨MessageIn⟩),
   ("MessageOut", ⟨MessageOut⟩),
   ("MessageAttemptOut", ⟨MessageAttemptOut⟩),
   ("EndpointMessageOut", ⟨EndpointMessageOut⟩),
   ("MessageEndpointOut", ⟨MessageEndpointOut⟩),
   ("MessageStatus", ⟨MessageStatus⟩),
   ("StatusCodeClass", ⟨StatusCodeClass⟩),
   ("MessageAttemptTriggerType", ⟨TriggerType⟩),
   ("OperationalWebhookEndpointIn", ⟨OperationalWebhookEndpointIn⟩),
   ("OperationalWebhookEndpointUpdate", ⟨OperationalWebhookEndpointUpdate⟩),
   ("OperationalWebhookEndpointOut", ⟨OperationalWebhookEndpointOut⟩),
   ("OperationalWebhookEndpointSecretOut", ⟨OperationalWebhookEndpointSecretOut⟩),
   ("OperationalWebhookEndpointSecretIn", ⟨OperationalWebhookEndpointSecretIn⟩),
   ("AppUsageStatsIn", ⟨AppUsageStatsIn⟩),
   ("AppUsageStatsOut", ⟨AppUsageStatsOut⟩)]

/-- The type of a name. -/
def ofName? (name : String) : Option WireType := Json.lookup name catalog

end WireType

end WebhookClient
