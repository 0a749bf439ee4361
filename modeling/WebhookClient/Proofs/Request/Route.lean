import Mathlib
import WebhookClient.Proofs.Client.Build
import WebhookClient.Proofs.Client.Default
import WebhookClient.Proofs.Request.Basic
import WebhookClient.Proofs.Url.Path

/-!
# The route of a request

The path of a request is that of the server, followed by one segment for each segment of the
template. `KeepsRoute` says so, and `keepsRoute_iff` when it holds: values whose tabs and line
breaks leave nothing but dots behind when they vanish lead to another path, although they are not
reported, and so does a server whose path is nothing but two empty segments.
-/

set_option autoImplicit false

namespace WebhookClient

open Url

namespace Request

variable {base u : Url} {r : Request}

/-! ## Keeping the route -/

/-- The path of a URL is that of the server, without an empty last segment, followed by one place
for each segment of the template, in their order: the text that fills it, encoded. -/
def KeepsRoute (base : Url) (r : Request) (u : Url) : Prop :=
  ∃ path front added, base.path? = some path ∧ (path = front ∨ path = front ++ [[]]) ∧
    u.path? = some (front ++ added) ∧
    List.Forall₂
      (fun ps s => Path.IsPlace s ∧ s = Path.webSegment (Template.fill r.pathParams ps))
      (Template.segments r.template) added

/-- The texts that fill the segments are all plain. -/
def IsPlainFilled (r : Request) : Prop :=
  ∀ ps ∈ Template.segments r.template, Path.IsPlain (Template.fill r.pathParams ps)

instance (r : Request) : Decidable r.IsPlainFilled := inferInstanceAs (Decidable (∀ _ ∈ _, _))

/-- Both segments of a path of two empty ones get lost when others are appended. -/
def LosesRoot (base : Url) (r : Request) : Prop :=
  base.path? = some [[], []] ∧ Template.segments r.template ≠ []

theorem forall₂_webSegment (h : r.IsPlainFilled) :
    List.Forall₂
      (fun ps s => Path.IsPlace s ∧ s = Path.webSegment (Template.fill r.pathParams ps))
      (Template.segments r.template)
      (((Template.segments r.template).map (Template.fill r.pathParams)).map Path.webSegment) := by
  rw [List.forall₂_map_right_iff, List.forall₂_map_right_iff, List.forall₂_same]
  intro ps hps
  exact ⟨(Path.isPlace_webSegment_iff _).2 (h ps hps), rfl⟩

/-- The route is kept if all texts are plain and the root of the server is not lost, and only
then. -/
theorem keepsRoute_iff_of_url_eq_ok (hweb : base.kind = .web) (hu : r.url base = .ok u) :
    KeepsRoute base r u ↔ r.IsPlainFilled ∧ ¬ LosesRoot base r := by
  obtain ⟨-, path, hpath, rfl⟩ := url_eq_ok_iff.1 hu
  have hplain : (∀ raw ∈ (Template.segments r.template).map (Template.fill r.pathParams),
      Path.IsPlain raw) ↔ r.IsPlainFilled := List.forall_mem_map
  constructor
  · -- A path with as many places as there are segments cannot come of a text that is not plain.
    rintro ⟨path', front, added, hpath', hfront, hadded, hall⟩
    obtain rfl : path = path' := Option.some.inj (hpath.symm.trans hpath')
    rw [Url.path?_appendQuery, hweb] at hadded
    have hplaces : ∀ s ∈ added, Path.IsPlace s := ((List.forall₂_and_left _ _).1 hall.flip).1
    obtain ⟨hp, hroot⟩ := Path.isPlain_of_pushSegments_eq hfront (Option.some.inj hadded)
      (by rw [List.length_map, hall.length_eq]) hplaces
    refine ⟨hplain.1 hp, ?_⟩
    rintro ⟨hbase, hsegments⟩
    have hempty := hroot (Option.some.inj (hpath.symm.trans hbase))
    exact hsegments (List.map_eq_nil_iff.1 hempty)
  · -- Plain texts are appended one by one; the path that they follow is `front`.
    rintro ⟨hp, hroot⟩
    have hempty : path = [[], []] →
        (Template.segments r.template).map (Template.fill r.pathParams) = [] := by
      rintro rfl
      by_contra hraws
      exact hroot ⟨hpath, fun h => hraws (by rw [h]; rfl)⟩
    obtain ⟨front, hfront, hpushed⟩ := Path.exists_pushSegments_eq (hplain.2 hp) hempty
    refine ⟨path, front, _, hpath, hfront, ?_, forall₂_webSegment hp⟩
    rw [Url.path?_appendQuery, hweb, ← hpushed]
    rfl

/-- Where there is a URL the route is kept under the conditions of `keepsRoute_iff_of_url_eq_ok`.
Where every group has a value, one that makes a segment empty or a dot is reported. -/
theorem keepsRoute_iff (c : Client) (r : Request) :
    (∀ u, r.url c.baseUrl = .ok u →
      (KeepsRoute c.baseUrl r u ↔ r.IsPlainFilled ∧ ¬ LosesRoot c.baseUrl r)) ∧
    ((∀ ps ∈ Template.segments r.template, Template.IsValued r.pathParams ps) →
      (∃ ps ∈ Template.segments r.template, Template.names ps ≠ [] ∧
        Template.isMisleading (Template.fill r.pathParams ps) = true) →
      ∃ name value, r.pathParams.get? name = some value ∧
        r.url c.baseUrl = .error (.invalidPathParam name value r.template)) := by
  refine ⟨fun u hu => keepsRoute_iff_of_url_eq_ok c.kind_baseUrl hu, fun hvalued hmis => ?_⟩
  obtain ⟨name, value, hvalue, he⟩ := Template.expand_of_isMisleading hvalued hmis
  refine ⟨name, value, hvalue, ?_⟩
  rw [url, he]
  rfl

/-- The request that removes an endpoint of an application. -/
def removal (application endpoint : String) : Request :=
  ((Request.new .delete "/api/v1/app/\x7bapp_id\x7d/endpoint/\x7bendpoint_id\x7d").withPathParam
    "app_id" application).withPathParam "endpoint_id" endpoint

/-- An endpoint is removed under its own path, and one named by two dots is reported. -/
theorem removal_keepsRoute :
    (∃ u, (removal "app_1" "ep_1").url Client.testClient.baseUrl = .ok u ∧
      KeepsRoute Client.testClient.baseUrl (removal "app_1" "ep_1") u) ∧
    ∃ name value, (removal "app_1" "..").pathParams.get? name = some value ∧
      (removal "app_1" "..").url Client.testClient.baseUrl =
        .error (.invalidPathParam name value (removal "app_1" "..").template) := by
  constructor
  · have hu : (removal "app_1" "ep_1").url Client.testClient.baseUrl = .ok _ :=
      url_eq_ok_iff.2 ⟨by decide, _, rfl, rfl⟩
    refine ⟨_, hu, ((keepsRoute_iff Client.testClient _).1 _ hu).2 ⟨by decide, ?_⟩⟩
    rintro ⟨h, -⟩
    cases h
  · exact (keepsRoute_iff Client.testClient _).2 (by decide) (by decide)

/-- Two dots with a tab between them remove the segment before them. -/
theorem not_forall_keepsRoute :
    ¬ ∀ (s : Settings) (c : Client) (r : Request) (u : Url), Client.build .plainNames s = .ok c →
      (∀ ps ∈ Template.segments r.template, Template.names ps = [] →
        Template.isMisleading (Template.fill r.pathParams ps) = false) →
      r.url c.baseUrl = .ok u → KeepsRoute c.baseUrl r u := by
  intro h
  let r : Request := removal "app_1" ".\t."
  have haccepted : ∀ ps ∈ Template.segments r.template, Template.IsAccepted r.pathParams ps := by
    decide
  have hu : r.url Client.testClient.baseUrl = .ok _ := url_eq_ok_iff.2 ⟨haccepted, _, rfl, rfl⟩
  have hkeeps := h _ _ r _ Client.build_testsk (by decide) hu
  have hplain := ((keepsRoute_iff_of_url_eq_ok rfl hu).1 hkeeps).1
  exact absurd hplain (by decide)

end Request

end WebhookClient
