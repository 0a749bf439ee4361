import Mathlib
import WebhookClient.Proofs.Json.Faithful
import WebhookClient.Records.Catalog

/-!
# Payloads tell values apart

No two values of a record that is sent as a payload are written alike: no field is dropped, and
none stands under the name of another.
-/

set_option autoImplicit false

namespace WebhookClient

open Json

/-! ## Applications and access -/

instance : Faithful ApplicationIn := Record.faithful

instance : Faithful ApplicationPatch := Record.faithful

instance : Faithful AppPortalAccessIn := Record.faithful

instance : Faithful ApplicationTokenExpireIn := Record.faithful

/-! ## Endpoints -/

instance : Faithful EndpointIn := Record.faithful

instance : Faithful EndpointUpdate := Record.faithful

instance : Faithful EndpointPatch := Record.faithful

instance : Faithful EndpointSecretRotateIn := Record.faithful

instance : Faithful RecoverIn := Record.faithful

instance : Faithful ReplayIn := Record.faithful

instance : Faithful EndpointHeadersIn := Record.faithful

instance : Faithful EventExampleIn := Record.faithful

instance : Faithful OperationalWebhookEndpointIn := Record.faithful

instance : Faithful OperationalWebhookEndpointUpdate := Record.faithful

instance : Faithful OperationalWebhookEndpointSecretIn := Record.faithful

/-! ## Event types, messages and the rest -/

instance : Faithful EventTypeIn := Record.faithful

instance : Faithful EventTypeUpdate := Record.faithful

instance : Faithful EventTypePatch := Record.faithful

instance : Faithful MessageIn := Record.faithful

instance : Faithful IntegrationIn := Record.faithful

instance : Faithful IntegrationUpdate := Record.faithful

instance : Faithful AppUsageStatsIn := Record.faithful

end WebhookClient
