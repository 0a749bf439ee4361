import Mathlib
import WebhookClient.Proofs.Json.Fields
import WebhookClient.Records.Catalog

/-!
# Records of the service are read back

Each record that a request or an answer is made of is read from its own text, and so is a page of
such records: what is written for a field is what is read for it, and what is left out is what is
taken where it is missing. The one condition is on values of any kind within a record, such as the
payload of a message. Main statement: `readsBack_of_mem_catalog`.
-/

set_option autoImplicit false

namespace WebhookClient

open Json

/-! ## Applications and access -/

instance : Plain ApplicationIn := Record.plain

instance : Restored ApplicationIn := Record.restored

instance : Plain ApplicationOut := Record.plain

instance : Restored ApplicationOut := Record.restored

instance : Plain ApplicationPatch := Record.plain

instance : Restored ApplicationPatch := Record.restored

instance : Plain AppPortalAccessIn := Record.plain

instance : Restored AppPortalAccessIn := Record.restored

instance : Plain AppPortalAccessOut := Record.plain

instance : Restored AppPortalAccessOut := Record.restored

instance : Plain ApplicationTokenExpireIn := Record.plain

instance : Restored ApplicationTokenExpireIn := Record.restored

instance : Plain DashboardAccessOut := Record.plain

instance : Restored DashboardAccessOut := Record.restored

/-! ## Endpoints -/

instance : Plain EndpointIn := Record.plain

instance : Restored EndpointIn := Record.restored

instance : Plain EndpointUpdate := Record.plain

instance : Restored EndpointUpdate := Record.restored

instance : Plain EndpointPatch := Record.plain

instance : Restored EndpointPatch := Record.restored

instance : Plain EndpointOut := Record.plain

instance : Restored EndpointOut := Record.restored

instance : Plain EndpointSecretOut := Record.plain

instance : Restored EndpointSecretOut := Record.restored

instance : Plain EndpointSecretRotateIn := Record.plain

instance : Restored EndpointSecretRotateIn := Record.restored

instance : Plain RecoverIn := Record.plain

instance : Restored RecoverIn := Record.restored

instance : Plain ReplayIn := Record.plain

instance : Restored ReplayIn := Record.restored

instance : Plain EndpointHeadersIn := Record.plain

instance : Restored EndpointHeadersIn := Record.restored

instance : Plain EndpointHeadersOut := Record.plain

instance : Restored EndpointHeadersOut := Record.restored

instance : Plain EventExampleIn := Record.plain

instance : Restored EventExampleIn := Record.restored

/-! ## Event types and integrations -/

instance : Plain EventTypeIn := Record.plain

instance : Restored EventTypeIn := Record.restored

instance : Plain EventTypeOut := Record.plain

instance : Restored EventTypeOut := Record.restored

instance : Plain EventTypeUpdate := Record.plain

instance : Restored EventTypeUpdate := Record.restored

instance : Plain EventTypePatch := Record.plain

instance : Restored EventTypePatch := Record.restored

instance : Plain IntegrationIn := Record.plain

instance : Restored IntegrationIn := Record.restored

instance : Plain IntegrationUpdate := Record.plain

instance : Restored IntegrationUpdate := Record.restored

instance : Plain IntegrationOut := Record.plain

instance : Restored IntegrationOut := Record.restored

instance : Plain IntegrationKeyOut := Record.plain

instance : Restored IntegrationKeyOut := Record.restored

/-! ## Messages and attempts -/

instance : Plain MessageIn := Record.plain

instance : Restored MessageIn := Record.restored

instance : Plain MessageOut := Record.plain

instance : Restored MessageOut := Record.restored

instance : Plain MessageAttemptOut := Record.plain

instance : Restored MessageAttemptOut := Record.restored

instance : Plain EndpointMessageOut := Flattened.plain

instance : Restored EndpointMessageOut := Flattened.restored

instance : Plain MessageEndpointOut := Record.plain

instance : Restored MessageEndpointOut := Record.restored

/-! ## Operational webhooks and the rest -/

instance : Plain OperationalWebhookEndpointIn := Record.plain

instance : Restored OperationalWebhookEndpointIn := Record.restored

instance : Plain OperationalWebhookEndpointUpdate := Record.plain

instance : Restored OperationalWebhookEndpointUpdate := Record.restored

instance : Plain OperationalWebhookEndpointOut := Record.plain

instance : Restored OperationalWebhookEndpointOut := Record.restored

instance : Plain OperationalWebhookEndpointSecretOut := Record.plain

instance : Restored OperationalWebhookEndpointSecretOut := Record.restored

instance : Plain OperationalWebhookEndpointSecretIn := Record.plain

instance : Restored OperationalWebhookEndpointSecretIn := Record.restored

instance : Plain AppUsageStatsIn := Record.plain

instance : Restored AppUsageStatsIn := Record.restored

instance : Plain AppUsageStatsOut := Record.plain

instance : Restored AppUsageStatsOut := Record.restored

instance : Plain BackgroundTaskOut := Record.plain

instance : Restored BackgroundTaskOut := Record.restored

instance : Plain ServiceError := Record.plain

instance : Restored ServiceError := Record.restored

instance : Plain RejectedField := Record.plain

instance : Restored RejectedField := Record.restored

instance : Plain ValidationFailure := Record.plain

instance : Restored ValidationFailure := Record.restored

/-! ## Pages -/

section

variable {α : Type} [Wire α]

theorem nodup_names_page : (Record.fields (α := Page α)).names.Nodup :=
  (by decide : ["data", "done", "iterator", "prevIterator"].Nodup)

variable [Plain α]

instance : Plain (Page α) := Record.plain

instance [Restored α] : Restored (Page α) :=
  Record.restored (by dsimp only [Record.fields, id, inferInstance]; infer_instance)
    nodup_names_page

end

/-! ## All records -/

/-- A type of the service, with what it takes for its values to be plain. -/
structure PlainType extends WireType where
  [plain : Plain carrier]

namespace PlainType

/-- Plain values of the type that do not nest too deep are read from their text, in whatever order
the members of objects stand there. -/
def ReadsBack (t : PlainType) : Prop :=
  let _ := t.wire
  let _ := t.plain
  ∀ v : t.carrier, IsPlain v → (Wire.write v).FitsIn maxDepth →
    decode (encode v) = .ok v ∧ ∀ a, Reorders (Wire.write v) a → decode a.toText = .ok v

/-- Pages of values of a type. -/
def page (t : PlainType) : PlainType :=
  let _ := t.wire
  let _ := t.plain
  let _ := t.beq
  ⟨⟨Page t.carrier⟩⟩

/-- The types of the service by name. -/
def catalog : List (String × PlainType) :=
  [("ApplicationIn", ⟨⟨ApplicationIn⟩⟩),
   ("ApplicationOut", ⟨⟨ApplicationOut⟩⟩),
   ("ApplicationPatch", ⟨⟨ApplicationPatch⟩⟩),
   ("AppPortalAccessIn", ⟨⟨AppPortalAccessIn⟩⟩),
   ("AppPortalAccessOut", ⟨⟨AppPortalAccessOut⟩⟩),
   ("ApplicationTokenExpireIn", ⟨⟨ApplicationTokenExpireIn⟩⟩),
   ("DashboardAccessOut", ⟨⟨DashboardAccessOut⟩⟩),
   ("BackgroundTaskOut", ⟨⟨BackgroundTaskOut⟩⟩),
   ("BackgroundTaskStatus", ⟨⟨TaskStatus⟩⟩),
   ("BackgroundTaskType", ⟨⟨TaskKind⟩⟩),
   ("HttpErrorOut", ⟨⟨ServiceError⟩⟩),
   ("HttpValidationError", ⟨⟨ValidationFailure⟩⟩),
   ("ValidationErrorItem", ⟨⟨RejectedField⟩⟩),
   ("Ordering", ⟨⟨SortOrder⟩⟩),
   ("EndpointIn", ⟨⟨EndpointIn⟩⟩),
   ("EndpointUpdate", ⟨⟨EndpointUpdate⟩⟩),
   ("EndpointPatch", ⟨⟨EndpointPatch⟩⟩),
   ("EndpointOut", ⟨⟨EndpointOut⟩⟩),
   ("EndpointSecretOut", ⟨⟨EndpointSecretOut⟩⟩),
   ("EndpointSecretRotateIn", ⟨⟨EndpointSecretRotateIn⟩⟩),
   ("RecoverIn", ⟨⟨RecoverIn⟩⟩),
   ("ReplayIn", ⟨⟨ReplayIn⟩⟩),
   ("EndpointHeadersIn", ⟨⟨EndpointHeadersIn⟩⟩),
   ("EndpointHeadersOut", ⟨⟨EndpointHeadersOut⟩⟩),
   ("EventExampleIn", ⟨⟨EventExampleIn⟩⟩),
   ("EventTypeIn", ⟨⟨EventTypeIn⟩⟩),
   ("EventTypeOut", ⟨⟨EventTypeOut⟩⟩),
   ("EventTypeUpdate", ⟨⟨EventTypeUpdate⟩⟩),
   ("EventTypePatch", ⟨⟨EventTypePatch⟩⟩),
   ("IntegrationIn", ⟨⟨IntegrationIn⟩⟩),
   ("IntegrationUpdate", ⟨⟨IntegrationUpdate⟩⟩),
   ("IntegrationOut", ⟨⟨IntegrationOut⟩⟩),
   ("IntegrationKeyOut", ⟨⟨IntegrationKeyOut⟩⟩),
   ("MessageIn", ⟨⟨MessageIn⟩⟩),
   ("MessageOut", ⟨⟨MessageOut⟩⟩),
   ("MessageAttemptOut", ⟨⟨MessageAttemptOut⟩⟩),
   ("EndpointMessageOut", ⟨⟨EndpointMessageOut⟩⟩),
   ("MessageEndpointOut", ⟨⟨MessageEndpointOut⟩⟩),
   ("MessageStatus", ⟨⟨MessageStatus⟩⟩),
   ("StatusCodeClass", ⟨⟨StatusCodeClass⟩⟩),
   ("MessageAttemptTriggerType", ⟨⟨TriggerType⟩⟩),
   ("OperationalWebhookEndpointIn", ⟨⟨OperationalWebhookEndpointIn⟩⟩),
   ("OperationalWebhookEndpointUpdate", ⟨⟨OperationalWebhookEndpointUpdate⟩⟩),
   ("OperationalWebhookEndpointOut", ⟨⟨OperationalWebhookEndpointOut⟩⟩),
   ("OperationalWebhookEndpointSecretOut", ⟨⟨OperationalWebhookEndpointSecretOut⟩⟩),
   ("OperationalWebhookEndpointSecretIn", ⟨⟨OperationalWebhookEndpointSecretIn⟩⟩),
   ("AppUsageStatsIn", ⟨⟨AppUsageStatsIn⟩⟩),
   ("AppUsageStatsOut", ⟨⟨AppUsageStatsOut⟩⟩)]

theorem readsBack {α : Type} [Wire α] [BEq α] [Plain α] [Restored α] : ReadsBack ⟨⟨α⟩⟩ :=
  fun _ hv hdepth => ⟨decode_encode hv hdepth, fun _ => decode_of_reorders hv hdepth⟩

theorem restored_of_mem_catalog : ∀ e ∈ catalog, @Restored e.2.carrier e.2.wire e.2.plain := by
  unfold catalog
  iterate 48 refine List.forall_mem_cons.2 ⟨inferInstance, ?_⟩
  exact List.forall_mem_nil _

/-- The catalog is that of all types of the service, and plain values of these types and pages of
them are read from their text. -/
theorem readsBack_of_mem_catalog :
    (catalog.map fun e => (e.1, e.2.toWireType)) = WireType.catalog ∧
      ∀ e ∈ catalog, e.2.ReadsBack ∧ e.2.page.ReadsBack := by
  refine ⟨rfl, fun e he => ?_⟩
  have hrestored := restored_of_mem_catalog e he
  let _ := e.2.wire
  let _ := e.2.beq
  let _ := e.2.plain
  exact ⟨readsBack (α := e.2.carrier), readsBack (α := Page e.2.carrier)⟩

end PlainType

/-- Of a message and its state of delivery only the payload has to be plain. -/
theorem isPlain_endpointMessageOut_iff (m : EndpointMessageOut) :
    IsPlain m ↔ m.msg.payload.HasLongs ∧ m.msg.payload.IsSorted := by
  refine ⟨fun h => h.1.2.2.2.1, fun h => ⟨?_, trivial, fun _ _ => trivial, trivial⟩⟩
  exact ⟨trivial, fun _ _ => trivial, trivial, h, fun _ _ _ _ => trivial,
    fun _ _ _ _ => trivial, trivial, trivial⟩

/-- A message that is about to be delivered. -/
def pendingMessage : EndpointMessageOut where
  msg :=
    { id := "msg_1"
      eventId := none
      eventType := "order.paid"
      payload := .object [("amount", .number (.int 5)), ("paid", .bool true)]
      channels := none
      tags := some ["first"]
      timestamp := ⟨0, 0, 0, by decide⟩ }
  status := .pending
  nextAttempt := none

theorem readsBack_pendingMessage :
    IsPlain pendingMessage ∧ (Wire.write pendingMessage).FitsIn maxDepth ∧
      decode (encode pendingMessage) = .ok pendingMessage := by
  have hpayload : pendingMessage.msg.payload.HasLongs ∧ pendingMessage.msg.payload.IsSorted := by
    constructor
    · refine .object (List.forall_mem_cons.2 ⟨.int ?_, List.forall_mem_singleton.2 (.bool true)⟩)
      exact ⟨by decide, by decide⟩
    · refine .object ?_
        (List.forall_mem_cons.2 ⟨.number _, List.forall_mem_singleton.2 (.bool true)⟩)
      exact List.pairwise_pair.2 (by decide)
  have hplain := (isPlain_endpointMessageOut_iff pendingMessage).2 hpayload
  have hdepth : (Wire.write pendingMessage).FitsIn maxDepth := by
    have hnested : pendingMessage.msg.payload.FitsIn 126 :=
      .object (List.forall_mem_cons.2 ⟨.number _ _, List.forall_mem_singleton.2 (.bool _ _)⟩)
    have htags : (Json.list [.string "first"]).FitsIn 126 :=
      .list (List.forall_mem_singleton.2 (.string _ _))
    have hrest : ∀ m ∈ [("timestamp", Json.string pendingMessage.msg.timestamp.toText),
        ("status", .number (.int 1))], m.2.FitsIn 126 :=
      List.forall_mem_cons.2 ⟨.string _ _, List.forall_mem_singleton.2 (.number _ _)⟩
    refine .object (List.forall_mem_cons.2 ⟨.string _ _, List.forall_mem_cons.2 ⟨.string _ _, ?_⟩⟩)
    exact List.forall_mem_cons.2 ⟨hnested, List.forall_mem_cons.2 ⟨htags, hrest⟩⟩
  have hmem : ("EndpointMessageOut", ⟨⟨EndpointMessageOut⟩⟩) ∈ PlainType.catalog :=
    List.mem_of_getElem? (i := 36) rfl
  exact ⟨hplain, hdepth, ((PlainType.readsBack_of_mem_catalog.2 _ hmem).1 _ hplain hdepth).1⟩

end WebhookClient
