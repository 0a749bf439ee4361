import Mathlib
import WebhookClient.Proofs.Json.Demands
import WebhookClient.Records.Catalog

/-!
# Required members of answers

What the service must send: each record of an answer has members that must be there, and optional
ones that may be missing or `null`. Nothing is ever taken in the place of a missing member but none.
Main statement: `keepsDemands_answers`.
-/

set_option autoImplicit false

namespace WebhookClient

open Json

/-! ## Applications and access -/

def ApplicationOut.demands : List (Demand ApplicationOut) :=
  [.required "id",
    .optional "uid" fun a => { a with uid := none },
    .required "name",
    .optional "rateLimit" fun a => { a with rateLimit := none },
    .required "metadata",
    .required "createdAt",
    .required "updatedAt"]

def AppPortalAccessOut.demands : List (Demand AppPortalAccessOut) :=
  [.required "token", .required "url"]

def DashboardAccessOut.demands : List (Demand DashboardAccessOut) :=
  [.required "token", .required "url"]

/-! ## Endpoints -/

def EndpointOut.demands : List (Demand EndpointOut) :=
  [.required "id",
    .optional "uid" fun a => { a with uid := none },
    .required "url",
    .required "description",
    .required "version",
    .optional "rateLimit" fun a => { a with rateLimit := none },
    .optional "disabled" fun a => { a with disabled := none },
    .optional "filterTypes" fun a => { a with filterTypes := none },
    .optional "channels" fun a => { a with channels := none },
    .required "metadata",
    .required "createdAt",
    .required "updatedAt"]

def EndpointSecretOut.demands : List (Demand EndpointSecretOut) := [.required "key"]

def EndpointHeadersOut.demands : List (Demand EndpointHeadersOut) :=
  [.required "headers", .required "sensitive"]

def OperationalWebhookEndpointOut.demands : List (Demand OperationalWebhookEndpointOut) :=
  [.required "id",
    .optional "uid" fun a => { a with uid := none },
    .required "url",
    .required "description",
    .optional "rateLimit" fun a => { a with rateLimit := none },
    .optional "disabled" fun a => { a with disabled := none },
    .optional "filterTypes" fun a => { a with filterTypes := none },
    .required "metadata",
    .required "createdAt",
    .required "updatedAt"]

def OperationalWebhookEndpointSecretOut.demands :
    List (Demand OperationalWebhookEndpointSecretOut) :=
  [.required "key"]

/-! ## Event types and integrations -/

def EventTypeOut.demands : List (Demand EventTypeOut) :=
  [.required "name",
    .required "description",
    .required "archived",
    .required "deprecated",
    .optional "schemas" fun a => { a with schemas := none },
    .optional "featureFlag" fun a => { a with featureFlag := none },
    .optional "groupName" fun a => { a with groupName := none },
    .required "createdAt",
    .required "updatedAt"]

def IntegrationOut.demands : List (Demand IntegrationOut) :=
  [.required "id",
    .required "name",
    .optional "featureFlags" fun a => { a with featureFlags := none },
    .required "createdAt",
    .required "updatedAt"]

def IntegrationKeyOut.demands : List (Demand IntegrationKeyOut) := [.required "key"]

/-! ## Messages and attempts -/

def MessageOut.demands : List (Demand MessageOut) :=
  [.required "id",
    .optional "eventId" fun a => { a with eventId := none },
    .required "eventType",
    .required "payload",
    .optional "channels" fun a => { a with channels := none },
    .optional "tags" fun a => { a with tags := none },
    .required "timestamp"]

def MessageAttemptOut.demands : List (Demand MessageAttemptOut) :=
  [.required "id",
    .required "msgId",
    .required "endpointId",
    .required "url",
    .required "response",
    .required "responseStatusCode",
    .required "responseDurationMs",
    .required "status",
    .required "triggerType",
    .required "timestamp",
    .optional "msg" fun a => { a with msg := none }]

/-- The members of the message stand among those of the record that holds it. -/
def EndpointMessageOut.demands : List (Demand EndpointMessageOut) :=
  [.required "id",
    .optional "eventId" fun a => { a with msg := { a.msg with eventId := none } },
    .required "eventType",
    .required "payload",
    .optional "channels" fun a => { a with msg := { a.msg with channels := none } },
    .optional "tags" fun a => { a with msg := { a.msg with tags := none } },
    .required "timestamp",
    .required "status",
    .optional "nextAttempt" fun a => { a with nextAttempt := none }]

def MessageEndpointOut.demands : List (Demand MessageEndpointOut) :=
  [.required "id",
    .optional "uid" fun a => { a with uid := none },
    .required "url",
    .required "description",
    .required "version",
    .optional "rateLimit" fun a => { a with rateLimit := none },
    .optional "disabled" fun a => { a with disabled := none },
    .optional "filterTypes" fun a => { a with filterTypes := none },
    .optional "channels" fun a => { a with channels := none },
    .required "status",
    .optional "nextAttempt" fun a => { a with nextAttempt := none },
    .required "createdAt",
    .required "updatedAt"]

/-! ## Tasks, refusals and pages -/

def BackgroundTaskOut.demands : List (Demand BackgroundTaskOut) :=
  [.required "id", .required "status", .required "task"]

def AppUsageStatsOut.demands : List (Demand AppUsageStatsOut) :=
  [.required "id", .required "status", .required "task", .required "unresolvedAppIds"]

def ServiceError.demands : List (Demand ServiceError) := [.required "code", .required "detail"]

def ValidationFailure.demands : List (Demand ValidationFailure) := [.required "detail"]

def RejectedField.demands : List (Demand RejectedField) :=
  [.required "loc", .required "msg", .required "type"]

def Page.demands {α : Type} : List (Demand (Page α)) :=
  [.required "data",
    .required "done",
    .optional "iterator" fun a => { a with iterator := none },
    .optional "prevIterator" fun a => { a with prevIterator := none }]

/-! ## All answers -/

/-- A type that answers are made of, and its demands. -/
structure AnswerType extends WireType where
  demands : List (Demand carrier)

namespace AnswerType

/-- The types that answers are made of, pages apart, by name. -/
def catalog : List (String × AnswerType) :=
  [("ApplicationOut", ⟨⟨ApplicationOut⟩, ApplicationOut.demands⟩),
   ("AppPortalAccessOut", ⟨⟨AppPortalAccessOut⟩, AppPortalAccessOut.demands⟩),
   ("DashboardAccessOut", ⟨⟨DashboardAccessOut⟩, DashboardAccessOut.demands⟩),
   ("BackgroundTaskOut", ⟨⟨BackgroundTaskOut⟩, BackgroundTaskOut.demands⟩),
   ("HttpErrorOut", ⟨⟨ServiceError⟩, ServiceError.demands⟩),
   ("HttpValidationError", ⟨⟨ValidationFailure⟩, ValidationFailure.demands⟩),
   ("ValidationErrorItem", ⟨⟨RejectedField⟩, RejectedField.demands⟩),
   ("EndpointOut", ⟨⟨EndpointOut⟩, EndpointOut.demands⟩),
   ("EndpointSecretOut", ⟨⟨EndpointSecretOut⟩, EndpointSecretOut.demands⟩),
   ("EndpointHeadersOut", ⟨⟨EndpointHeadersOut⟩, EndpointHeadersOut.demands⟩),
   ("EventTypeOut", ⟨⟨EventTypeOut⟩, EventTypeOut.demands⟩),
   ("IntegrationOut", ⟨⟨IntegrationOut⟩, IntegrationOut.demands⟩),
   ("IntegrationKeyOut", ⟨⟨IntegrationKeyOut⟩, IntegrationKeyOut.demands⟩),
   ("MessageOut", ⟨⟨MessageOut⟩, MessageOut.demands⟩),
   ("MessageAttemptOut", ⟨⟨MessageAttemptOut⟩, MessageAttemptOut.demands⟩),
   ("EndpointMessageOut", ⟨⟨EndpointMessageOut⟩, EndpointMessageOut.demands⟩),
   ("MessageEndpointOut", ⟨⟨MessageEndpointOut⟩, MessageEndpointOut.demands⟩),
   ("OperationalWebhookEndpointOut",
     ⟨⟨OperationalWebhookEndpointOut⟩, OperationalWebhookEndpointOut.demands⟩),
   ("OperationalWebhookEndpointSecretOut",
     ⟨⟨OperationalWebhookEndpointSecretOut⟩, OperationalWebhookEndpointSecretOut.demands⟩),
   ("AppUsageStatsOut", ⟨⟨AppUsageStatsOut⟩, AppUsageStatsOut.demands⟩)]

/-- The names of the types that answers are made of end in `Out`, those of rejected requests apart.
-/
def IsName (name : String) : Prop :=
  ['O', 'u', 't'] <:+ name.toList ∨ name ∈ ["HttpValidationError", "ValidationErrorItem"]

instance (name : String) : Decidable (IsName name) :=
  inferInstanceAs (Decidable (_ ∨ _))

/-- A value of the type keeps the demands of the type. -/
def Keeps (t : AnswerType) : Prop :=
  let _ := t.wire
  KeepsDemands t.carrier t.demands

theorem keeps_of_mem_catalog : ∀ e ∈ catalog, e.2.Keeps := by
  unfold catalog
  iterate 15 refine List.forall_mem_cons.2 ⟨Record.keepsDemands rfl, ?_⟩
  refine List.forall_mem_cons.2 ⟨Flattened.keepsDemands rfl, ?_⟩
  iterate 4 refine List.forall_mem_cons.2 ⟨Record.keepsDemands rfl, ?_⟩
  exact List.forall_mem_nil _

end AnswerType

/-- The catalog is that of all types of the service that answers are made of, and these types and
pages of any values keep their demands. -/
theorem keepsDemands_answers :
    (AnswerType.catalog.map fun e => (e.1, e.2.toWireType)) =
        WireType.catalog.filter (fun e => AnswerType.IsName e.1) ∧
      (∀ e ∈ AnswerType.catalog, e.2.Keeps) ∧
      ∀ (α : Type) [Wire α], KeepsDemands (Page α) Page.demands := by
  refine ⟨rfl, AnswerType.keeps_of_mem_catalog, fun α _ => ?_⟩
  exact Record.keepsDemands rfl (by dsimp only [Record.fields, id, inferInstance]; infer_instance)
    (by decide : ["data", "done", "iterator", "prevIterator"].Nodup)

/-- No list stands in for the sensitive headers that an answer does not name. -/
example : decode (α := EndpointHeadersOut) "\x7b\"headers\":\x7b\"a\":\"b\"\x7d\x7d" =
    .error (.missingMember "sensitive") := by
  cbv

end WebhookClient
