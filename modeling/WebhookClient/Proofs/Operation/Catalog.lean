import Mathlib
import WebhookClient.Operation.Catalog
import WebhookClient.Proofs.Operation.Request
import WebhookClient.Proofs.Records.Faithful

/-!
# The catalog tells operations apart

No two operations of the catalog can be requested alike, and no two payloads of one operation are
written alike. What has to be looked up in the catalog for this are properties that can be
checked: `isWellFormed_of_mem_catalog`, `name_eq_of_mayAgree` and `nodup_names_catalog`.
-/

set_option autoImplicit false

namespace WebhookClient.Operation

open Json

/-! ## Checks of the catalog -/

instance (op : Operation) : Decidable op.IsWellFormed :=
  decidable_of_iff
    (op.path ≠ [] ∧ (∀ p ∈ op.path, p.IsPlain) ∧ op.ids.Nodup ∧ (op.options.map (·.name)).Nodup)
    ⟨fun ⟨hne, hpath, hids, hoptions⟩ => ⟨hne, hpath, hids, hoptions⟩,
      fun ⟨hne, hpath, hids, hoptions⟩ => ⟨hne, hpath, hids, hoptions⟩⟩

theorem isWellFormed_of_mem_catalog : ∀ op ∈ catalog, op.IsWellFormed := by
  decide +kernel

theorem nodup_names_catalog : (catalog.map (·.name)).Nodup := by
  decide +kernel

/-- The options whose values are not told by the query: the lists of event types, and the endpoint
that `message_attempt.list_by_endpoint` takes twice. -/
theorem kind_options_of_mem_catalog : ∀ op ∈ catalog, ∀ o ∈ op.options,
    (o.kind = .texts → o.name = "event_types") ∧
      (o.kind = .unsent →
        op.name = "message_attempt.list_by_endpoint" ∧ o.name = "endpoint_id") := by
  decide +kernel

/-- An operation that answers page by page asks for a page by an option that takes its iterator,
and sends no other pair of that name. It asks with the method that changes nothing. -/
theorem iterator_mem_options : ∀ op ∈ catalog, op.answer.item?.isSome →
    op.method = .get ∧ ⟨"iterator", .text⟩ ∈ op.options ∧
      ∀ p ∈ op.fixedQuery, p.1 ≠ "iterator" := by
  decide +kernel

/-- The names that can stand in the query of an operation. -/
def queryNames (op : Operation) : List String :=
  op.fixedQuery.map (·.1) ++ op.options.map (·.name)

/-- Whether what is requested may be the same for two operations: the methods are, the paths are
compatible, and each operation may send what the other always sends. -/
def MayAgree (op op' : Operation) : Prop :=
  op.method = op'.method ∧ compatible op.path op'.path = true ∧
    (∀ n ∈ op.fixedQuery.map (·.1), n ∈ op'.queryNames) ∧
    ∀ n ∈ op'.fixedQuery.map (·.1), n ∈ op.queryNames

instance (op op' : Operation) : Decidable (op.MayAgree op') :=
  inferInstanceAs (Decidable (_ ∧ _ ∧ _ ∧ _))

theorem name_eq_of_mayAgree :
    ∀ op ∈ catalog, ∀ op' ∈ catalog, op.MayAgree op' → op.name = op'.name := by
  decide +kernel

variable {op op' : Operation}

/-- An operation of the catalog may agree with itself only. -/
theorem eq_of_mayAgree (h : op ∈ catalog) (h' : op' ∈ catalog) (hagree : op.MayAgree op') :
    op = op' :=
  List.inj_on_of_nodup_map nodup_names_catalog h h' (name_eq_of_mayAgree op h op' h' hagree)

theorem name_mem_queryNames {args : op.Arguments} {p : String × String}
    (h : p ∈ op.queryTexts args) : p.1 ∈ op.queryNames := by
  rcases List.mem_append.1 h with h | h
  · obtain ⟨e, he, rfl⟩ := List.mem_map.1 h
    exact List.mem_append_left _ (List.mem_map.2 ⟨e, he, rfl⟩)
  · exact List.mem_append_right _ (Choices.name_mem_of_mem_texts h)

/-- What an operation always sends stands in every query that is the same as one of its own. -/
theorem fixed_mem_queryNames {args : op.Arguments} {args' : op'.Arguments}
    (h : op.queryTexts args = op'.queryTexts args') :
    ∀ n ∈ op.fixedQuery.map (·.1), n ∈ op'.queryNames := by
  intro n hn
  obtain ⟨e, he, rfl⟩ := List.mem_map.1 hn
  have hmem : (e.1, e.2.toText) ∈ op.queryTexts args :=
    List.mem_append_left _ (List.mem_map.2 ⟨e, he, rfl⟩)
  rw [h] at hmem
  exact name_mem_queryNames hmem

/-- Operations of the catalog with the same method, path and query are the same. -/
theorem eq_of_queryTexts_eq (h : op ∈ catalog) (h' : op' ∈ catalog)
    (hmethod : op.method = op'.method) {args : op.Arguments} {args' : op'.Arguments}
    (hfilled : filled op.path args.ids = filled op'.path args'.ids)
    (hquery : op.queryTexts args = op'.queryTexts args') : op = op' :=
  eq_of_mayAgree h h' ⟨hmethod, compatible_of_filled_eq hfilled, fixed_mem_queryNames hquery,
    fixed_mem_queryNames hquery.symm⟩

/-! ## Payloads -/

/-- The values of a payload are told by their texts. -/
def HasFaithfulPayload (t : WireType) : Prop :=
  let _ := t.wire
  Faithful t.carrier

theorem hasFaithfulPayload_of_mem_catalog :
    ∀ t ∈ catalog.filterMap (·.payload), HasFaithfulPayload t := by
  rw [← List.forall_iff_forall_mem]
  show Faithful ApplicationIn ∧ Faithful ApplicationIn ∧ Faithful ApplicationIn ∧
    Faithful ApplicationPatch ∧ Faithful AppPortalAccessIn ∧ Faithful ApplicationTokenExpireIn ∧
    Faithful EndpointIn ∧ Faithful EndpointUpdate ∧ Faithful EndpointPatch ∧
    Faithful EndpointSecretRotateIn ∧ Faithful RecoverIn ∧ Faithful ReplayIn ∧
    Faithful EndpointHeadersIn ∧ Faithful EndpointHeadersIn ∧ Faithful EventExampleIn ∧
    Faithful EventTypeIn ∧ Faithful EventTypeUpdate ∧ Faithful EventTypePatch ∧
    Faithful IntegrationIn ∧ Faithful IntegrationUpdate ∧ Faithful MessageIn ∧
    Faithful OperationalWebhookEndpointIn ∧ Faithful OperationalWebhookEndpointUpdate ∧
    Faithful OperationalWebhookEndpointSecretIn ∧ Faithful AppUsageStatsIn
  repeat' apply And.intro
  all_goals infer_instance

/-- The payloads of an operation of the catalog are told by their texts. -/
theorem payloadText_injective (h : op ∈ catalog) {p q : Payload op.payload}
    (hpq : payloadText op.payload p = payloadText op.payload q) : p = q := by
  have hfaithful : ∀ t, op.payload = some t → HasFaithfulPayload t := by
    intro t ht
    exact hasFaithfulPayload_of_mem_catalog t (List.mem_filterMap.2 ⟨op, h, ht⟩)
  generalize op.payload = t at p q hpq hfaithful
  cases t with
  | none => rfl
  | some t =>
    let _ := t.wire
    have ht : Faithful t.carrier := hfaithful t rfl
    exact encode_injective (Option.some.inj hpq)

end WebhookClient.Operation
