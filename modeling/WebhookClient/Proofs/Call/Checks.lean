import Mathlib
import WebhookClient.Proofs.Call.Schedule
import WebhookClient.Proofs.Client.Build
import WebhookClient.Proofs.Request.Fault
import WebhookClient.Proofs.Request.Route

/-!
# Calls that end before anything is sent

The path of a request, its headers and its body are checked in this order before the first
attempt. If one of them has a fault the call ends at once with that fault, even when its deadline
has passed; if none has, an attempt is made. Main statement: `call_of_build_eq_ok`.
-/

set_option autoImplicit false

namespace WebhookClient

/-- A call that ends with a failure at once: it makes no attempt and no pause, takes no time and
leaves no event. -/
structure Call.EndsAtOnce {α : Type} (call : Call α) (start : Nat) (e : Failure) : Prop where
  attempts : call.attempts = []
  events : call.events = []
  finishedAt : call.finishedAt = start
  result : call.result = .error e

namespace Client

variable {α : Type} [Json.Wire α] {c : Client} {request : Request} {s : Circumstances}

/-- A call whose request can be sent makes an attempt, however late it is. -/
theorem attempts_ne_nil {p : Request.Prepared} (h : request.prepare c.baseUrl = .ok p) :
    (c.call request s : Call α).attempts ≠ [] := by
  obtain ⟨a, ha⟩ := exists_first_attempt (α := α) (s := s) h
  exact List.ne_nil_of_mem (List.mem_of_getElem? ha)

/-- The calls that end at once are those whose request cannot be sent. -/
theorem endsAtOnce_iff {e : Failure} :
    (c.call request s : Call α).EndsAtOnce s.startedAt e ↔
      request.prepare c.baseUrl = .error e := by
  cases h : request.prepare c.baseUrl with
  | ok p =>
    constructor
    · intro hend
      exact absurd hend.attempts (attempts_ne_nil h)
    · intro he
      cases he
  | error e' =>
    have hend : (c.call request s : Call α).EndsAtOnce s.startedAt e' := by
      unfold call
      rw [h]
      exact ⟨rfl, rfl, rfl, rfl⟩
    constructor
    · intro hend'
      rw [Except.error.inj (hend'.result.symm.trans hend.result)]
    · intro he
      cases he
      exact hend

/-- Of the path, the headers and the body of a request the first with a fault ends the call at
once. The failure is that of the part, of one of the four kinds of `Request.Fault`, neither one to
try again nor one of the client; without a fault there is an attempt. -/
theorem call_of_build_eq_ok {idna : Url.Idna} {settings : Settings}
    (hc : build idna settings = .ok c)
    (request : Request) (s : Circumstances) :
    (¬ request.IsFillable →
      ∃ e, Template.expand request.template request.pathParams = .error e ∧
        ((∃ name, request.pathParams.get? name = none ∧
            e = .missingPathParam name request.template) ∨
          ∃ name value, request.pathParams.get? name = some value ∧
            e = .invalidPathParam name value request.template) ∧
        (c.call request s : Call α).EndsAtOnce s.startedAt e) ∧
    (request.IsFillable → ¬ request.HasSendableHeaders →
      ∃ l ∈ request.headerParams.entries, ¬ Header.IsSendable l.1 l.2 ∧ ∃ fault : Header.Fault,
        request.headers = .error (.invalidHeader l.1 fault.message) ∧
        (c.call request s : Call α).EndsAtOnce s.startedAt
          (.invalidHeader l.1 fault.message)) ∧
    (request.IsFillable → request.HasSendableHeaders →
      ∀ e, request.body = some (.error e) →
        (c.call request s : Call α).EndsAtOnce s.startedAt (.unencodable e)) ∧
    (request.IsFillable → request.HasSendableHeaders →
      (∀ e, request.body ≠ some (.error e)) → (c.call request s : Call α).attempts ≠ []) ∧
    ∀ e, (c.call request s : Call α).EndsAtOnce s.startedAt e →
      Request.Fault request.template e ∧ e.isRetryable = false ∧
        ∀ config, e ≠ .config config := by
  have hbase := exists_path?_of_build hc
  refine ⟨?_, ?_, ?_, ?_, ?_⟩
  · intro hpath
    obtain ⟨e, he, hkind⟩ := Request.expand_of_not_isFillable hpath
    exact ⟨e, he, hkind, endsAtOnce_iff.2 (Request.prepare_of_expand_eq_error he)⟩
  · intro hpath hheaders
    obtain ⟨l, hl, hbad, fault, he⟩ := Request.headers_of_not_hasSendableHeaders hheaders
    exact ⟨l, hl, hbad, fault, he,
      endsAtOnce_iff.2 (Request.prepare_of_headers_eq_error hbase hpath he)⟩
  · intro hpath hheaders e he
    exact endsAtOnce_iff.2 (Request.prepare_of_body_eq_error hbase hpath hheaders he)
  · intro hpath hheaders hbody
    obtain ⟨p, hp⟩ := Request.exists_prepare_eq_ok hbase hpath hheaders hbody
    exact attempts_ne_nil hp
  · intro e hend
    have hfault := Request.fault_of_prepare_eq_error hbase (endsAtOnce_iff.1 hend)
    exact ⟨hfault, hfault.isRetryable_eq_false, hfault.ne_config⟩

/-- The request to remove an endpoint, with one more header and a body that could not be
written. -/
def faultyRemoval (endpoint header : String) : Request :=
  ((Request.removal "app_1" endpoint).withHeader header (some "1")).withBodyText
    (.error (.malformed .keyNotString))

/-- A call that begins after its deadline. -/
def belated : Circumstances := ⟨fun _ => .response 20 200 [], 10, some 5, 7⟩

/-- Of several faults the first is reported, and without one an attempt is made, although the
deadline has passed. -/
theorem call_belated :
    build .plainNames (.ofToken "testsk") = .ok testClient ∧
    (∃ e, Template.expand (faultyRemoval ".." "x y").template
        (faultyRemoval ".." "x y").pathParams = .error e ∧
      (testClient.call (faultyRemoval ".." "x y") belated : Call Json).EndsAtOnce 10 e) ∧
    (∃ name, ∃ fault : Header.Fault,
      (testClient.call (faultyRemoval "ep_1" "x y") belated : Call Json).EndsAtOnce 10
        (.invalidHeader name fault.message)) ∧
    (testClient.call (faultyRemoval "ep_1" "x-y") belated : Call Json).EndsAtOnce 10
      (.unencodable (.malformed .keyNotString)) ∧
    (testClient.call listing belated : Call Json).attempts ≠ [] := by
  have hc : build .plainNames (.ofToken "testsk") = .ok testClient := build_testsk
  refine ⟨hc, ?_, ?_, ?_, ?_⟩
  · obtain ⟨e, he, -, hend⟩ := (call_of_build_eq_ok (α := Json) hc
      (faultyRemoval ".." "x y") belated).1 (by decide)
    exact ⟨e, he, hend⟩
  · obtain ⟨l, -, -, fault, -, hend⟩ := (call_of_build_eq_ok (α := Json) hc
      (faultyRemoval "ep_1" "x y") belated).2.1 (by decide) (by decide)
    exact ⟨l.1, fault, hend⟩
  · exact (call_of_build_eq_ok hc (faultyRemoval "ep_1" "x-y") belated).2.2.1
      (by decide) (by decide) _ rfl
  · exact (call_of_build_eq_ok hc listing belated).2.2.2.1
      (by decide) (by decide) fun e h => by cases h

end Client

end WebhookClient
