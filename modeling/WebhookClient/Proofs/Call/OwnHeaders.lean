import Mathlib
import WebhookClient.Proofs.Call.Sent
import WebhookClient.Proofs.Request.Headers

/-!
# The headers that the client adds of itself

To each attempt the client adds the number of the call, from the second attempt on that of the
retry, and with a body its type. They are what stands under their names (`HasOwnHeaders`) if
nothing else is sent under them. But the headers that go with every request are sent beside them,
and those of a call in place of the two numbers and beside the type. Main statement:
`hasOwnHeaders_iff`.
-/

set_option autoImplicit false

namespace WebhookClient

/-! ## Values under the names of the client -/

/-- Under the names of the client an attempt sends what the client adds of itself. -/
structure Sent.HasOwnHeaders (a : Sent) (requestId retry : Nat) : Prop where
  requestId : a.headers.get requestIdName = [number requestId]
  retryCount : a.headers.get retryCountName = if retry = 0 then [] else [number retry]
  contentType : a.body.isSome = true → a.headers.get contentTypeName = [jsonType]

namespace Client

/-- What the client sends with every request and what a call sets leave what the client adds
under a name alone: the call sets the same, or else neither has the name. -/
def Spares (c : Client) (p : Request.Prepared) (name : HeaderName) (own : List HeaderValue) :
    Prop :=
  if p.headers.get name = [] then c.headers.get name = [] else p.headers.get name = own

variable {α : Type} [Json.Wire α] {c : Client} {request : Request} {p : Request.Prepared}
  {s : Circumstances}

/-- Under a name other than that of the type of the body, an attempt sends what the client adds if
the others spare it. -/
theorem get_ofAttempt_eq_own_iff {name : HeaderName} {own : List HeaderValue}
    {requestId retry : Nat} (hname : name ≠ Sent.contentTypeName)
    (hset : (p.headers.get name).length ≤ 1)
    (hown : (Sent.numbered c requestId retry).get name = c.headers.get name ++ own) :
    (Sent.ofAttempt c p requestId retry).headers.get name = own ↔ c.Spares p name own := by
  rw [Sent.get_headers_ofAttempt, if_neg fun h => hname h.2, List.append_nil, hown]
  exact Headers.elim_getLast?_eq_iff hset

/-- The type of a body is sent after all that others send as such. -/
theorem get_ofAttempt_contentTypeName_eq_iff
    (hset : (p.headers.get Sent.contentTypeName).length ≤ 1) (hbody : p.body.isSome = true)
    (requestId retry : Nat) :
    (Sent.ofAttempt c p requestId retry).headers.get Sent.contentTypeName = [Sent.jsonType] ↔
      c.Spares p Sent.contentTypeName [] := by
  rw [Sent.get_headers_ofAttempt, if_pos ⟨hbody, rfl⟩,
    Sent.get_numbered_of_ne (by decide) (by decide), List.append_left_eq_self,
    ← List.append_nil (c.headers.get Sent.contentTypeName)]
  exact Headers.elim_getLast?_eq_iff hset

/-- The attempts of a call carry what the client adds of itself, and nothing else under its names,
if and only if neither the headers sent with every request nor those of the call change it. -/
theorem hasOwnHeaders_iff {i : Nat} {a : Attempt} (hp : request.prepare c.baseUrl = .ok p)
    (ha : (c.call request s : Call α).attempts[i]? = some a) :
    a.sent.HasOwnHeaders s.requestId i ↔
      c.Spares p Sent.requestIdName [Sent.number s.requestId] ∧
      c.Spares p Sent.retryCountName (if i = 0 then [] else [Sent.number i]) ∧
      (p.body.isSome = true → c.Spares p Sent.contentTypeName []) := by
  have hset := Request.length_get_headers_le (Request.prepare_eq_ok_iff.1 hp).2.2.1
  have hid := get_ofAttempt_eq_own_iff (by decide) (hset Sent.requestIdName)
    (Sent.get_numbered_requestIdName c s.requestId i)
  have hcount := get_ofAttempt_eq_own_iff (by decide) (hset Sent.retryCountName)
    (Sent.get_numbered_retryCountName c s.requestId i)
  have htype := fun hbody => get_ofAttempt_contentTypeName_eq_iff (c := c)
    (hset Sent.contentTypeName) hbody s.requestId i
  rw [sent_of_getElem?_attempts hp ha]
  constructor
  · intro h
    exact ⟨hid.1 h.requestId, hcount.1 h.retryCount,
      fun hbody => (htype hbody).1 (h.contentType hbody)⟩
  · rintro ⟨hid', hcount', htype'⟩
    exact ⟨hid.2 hid', hcount.2 hcount', fun hbody => (htype hbody).2 (htype' hbody)⟩

/-- The second attempt at the listing carries the number of the call and that of the retry. -/
theorem hasOwnHeaders_listing :
    ∃ p, listing.prepare retryingClient.baseUrl = .ok p ∧
      ∃ b, (retryingClient.call listing unavailableOnce : Call Json).attempts[1]? = some b ∧
        b.sent.HasOwnHeaders 7 1 := by
  obtain ⟨b, hb⟩ := exists_second_listing
  have hp : listing.prepare retryingClient.baseUrl = .ok ⟨.get, listingUrl, .empty, none⟩ :=
    prepare_listing
  refine ⟨_, hp, b, hb, (hasOwnHeaders_iff hp hb).2 ⟨?_, ?_, fun hbody => ?_⟩⟩
  · exact (if_pos rfl).mpr rfl
  · exact (if_pos rfl).mpr rfl
  · cases hbody

/-! ## A type of the client's own -/

/-- Settings that name the type of bodies for every request. -/
def typedSettings : Settings :=
  { Settings.ofToken "testsk" with
    defaultHeaders := Headers.empty.set Sent.contentTypeName Sent.jsonType }

/-- The client of `typedSettings`. -/
def typedClient : Client :=
  { testClient with headers := testClient.headers.setAll typedSettings.defaultHeaders }

theorem build_typedSettings : build .plainNames typedSettings = .ok typedClient := rfl

/-- The request for an application without a name. -/
def creation : Request := (Request.new .post "/api/v1/app").withBodyText (.ok "{}")

/-- A client that names the type of bodies for every request sends it twice. -/
theorem not_forall_hasOwnHeaders :
    ¬ ∀ (settings : Settings) (c : Client) (request : Request) (p : Request.Prepared)
      (s : Circumstances) (i : Nat) (a : Attempt), build .plainNames settings = .ok c →
      request.prepare c.baseUrl = .ok p →
      (c.call request s : Call Json).attempts[i]? = some a →
      a.sent.HasOwnHeaders s.requestId i := by
  intro hall
  have hp : creation.prepare typedClient.baseUrl = .ok ⟨.post, listingUrl, .empty, some "{}"⟩ :=
    rfl
  obtain ⟨a, ha⟩ := exists_first_attempt (α := Json) (s := unavailableOnce) hp
  have hown := hall typedSettings typedClient creation _ unavailableOnce 0 a
    build_typedSettings hp ha
  rw [sent_of_getElem?_attempts hp ha] at hown
  -- The type stands among the headers of every request and is added once more.
  have htwice : (Sent.ofAttempt typedClient ⟨.post, listingUrl, .empty, some "{}"⟩
      unavailableOnce.requestId 0).headers.get Sent.contentTypeName =
      [Sent.jsonType, Sent.jsonType] := by
    rw [Sent.get_headers_ofAttempt, if_pos ⟨rfl, rfl⟩,
      Sent.get_numbered_of_ne (by decide) (by decide)]
    decide
  have honce := hown.contentType rfl
  rw [htwice] at honce
  cases honce

end Client

end WebhookClient
