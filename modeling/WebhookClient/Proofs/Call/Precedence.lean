import Mathlib
import WebhookClient.Proofs.Call.Sent
import WebhookClient.Proofs.Client.Steps
import WebhookClient.Proofs.Request.Headers

/-!
# Which of several headers is sent

A header may be given more than once: by the steps in which a request is put together, by those in
which the settings are, and by the client of itself. Of a request the value is sent that is given
last in the greatest spelling of its name (`exists_headers_ofSteps`). A name that it does not have
leaves with the default header that is given last, or else with what the client sends of itself, or
else with what the carrier adds (`exists_headers_carried`).
-/

set_option autoImplicit false

namespace WebhookClient

open Header

/-- The names under which the client sends headers of its own with each attempt. -/
def Sent.ownNames : List HeaderName := [requestIdName, retryCountName, contentTypeName]

/-- A carrier with default headers adds the last of a name, or else accepts all types of answers. -/
theorem Carrier.map_text_added_ofDefaults (defaults : Headers) (a : Sent) (name : HeaderName) :
    ((ofDefaults defaults).added a name).map (·.text) =
      ((defaults.get name).getLast?.map (·.text)).or
        (if name = acceptName then some "*/*" else none) := by
  show ((held defaults).get name).head?.map (·.text) = _
  rw [held, Headers.get_setAll, Headers.get_cons]
  cases (defaults.get name).getLast? with
  | some value => rfl
  | none =>
    by_cases hname : acceptName = name
    · rw [if_pos hname, if_pos hname.symm]
      rfl
    · rw [if_neg hname, if_neg (Ne.symm hname)]
      rfl

/-- The headers of a call come first under their names. -/
theorem Sent.get_prefix_get_ofAttempt (c : Client) (p : Request.Prepared) (requestId retry : Nat)
    {name : HeaderName} (hset : (p.headers.get name).length ≤ 1) :
    p.headers.get name <+: (ofAttempt c p requestId retry).headers.get name := by
  rw [get_headers_ofAttempt]
  match hvalues : p.headers.get name, hset with
  | [], _ => exact List.nil_prefix
  | [v], _ => exact List.prefix_append [v] _

namespace Client

variable {α : Type} [Json.Wire α]

/-! ## Headers of a call -/

theorem headers_of_mem_attempts {c : Client} {request : Request} {s : Circumstances} {a : Attempt}
    (ha : a ∈ (c.call request s : Call α).attempts) :
    ∃ p retry, request.headers = .ok p.headers ∧ a.sent = Sent.ofAttempt c p s.requestId retry := by
  obtain ⟨p, retry, hp, hsent⟩ := exists_of_mem_attempts ha
  exact ⟨p, retry, (Request.prepare_eq_ok_iff.1 hp).2.2.1, hsent⟩

open Request

/-- If all headers that are given can be sent, the request has no value under a name that is not
given, and else the one that is given last in the greatest of the spellings of the name. This is the
value that is given last for the name just if it is given last in that spelling too. Each attempt
sends it first under the name. -/
theorem exists_headers_ofSteps (method : Method) (template : String) {steps : List Request.Step}
    (hsend : ∀ g ∈ givenHeaders method steps, IsSendable g.1 g.2) :
    ∃ hs, (ofSteps method template steps).headers = .ok hs ∧
      (∀ name, (∀ g ∈ givenHeaders method steps, ¬ name.IsSpelt g.1) → hs.get name = []) ∧
      (∀ name s, IsLastSpelling name (givenHeaders method steps) s →
        (hs.get name).map (·.text) = (lastWhere (· = s) (givenHeaders method steps)).toList) ∧
      (∀ name, (hs.get name).map (·.text) = (lastFor name (givenHeaders method steps)).toList ↔
        ∀ s, IsLastSpelling name (givenHeaders method steps) s →
          lastWhere (· = s) (givenHeaders method steps) =
            lastFor name (givenHeaders method steps)) ∧
      ∀ (c : Client) (s : Circumstances),
        ∀ a ∈ (c.call (ofSteps method template steps) s : Call α).attempts,
          ∀ name, hs.get name <+: a.sent.headers.get name := by
  obtain ⟨hs, hhs⟩ := exists_headers_eq_ok (hasSendableHeaders_ofSteps template hsend)
  refine ⟨hs, hhs, fun name hnone => get_headers_ofSteps_eq_nil hhs hnone,
    fun name s hlast => map_text_get_headers_ofSteps hhs hlast,
    map_text_get_headers_eq_lastFor_iff hhs, fun c s a ha name => ?_⟩
  obtain ⟨p, retry, hp, hsent⟩ := headers_of_mem_attempts ha
  have hset : p.headers = hs := Except.ok.inj (hp.symm.trans hhs)
  rw [hsent, ← hset]
  exact Sent.get_prefix_get_ofAttempt c p s.requestId retry (length_get_headers_le hp name)

/-- Steps that give a header in two spellings, and a key; the last of them has no value. -/
def tracedSteps : List Request.Step :=
  [.header "x-trace" (some "1"), .header "X-Trace" (some "2"), .idempotencyKey (some "k"),
    .header "x-trace" none]

def traceName : HeaderName := ⟨"x-trace", by decide⟩

/-- The small spelling is the greater one. -/
theorem isLastSpelling_tracedSteps :
    IsLastSpelling traceName (givenHeaders .post tracedSteps) "x-trace" := by
  have hnames : (givenHeaders .post tracedSteps).map (·.1) =
      ["x-trace", "X-Trace", idempotencyKeyName] := rfl
  rw [IsLastSpelling, hnames]
  refine ⟨⟨by decide, by decide⟩, ?_⟩
  rintro s ⟨hspelt, hs⟩
  rcases List.mem_cons.1 hs with rfl | hs
  · exact le_refl _
  rcases List.mem_cons.1 hs with rfl | hs
  · decide
  · rw [List.mem_singleton.1 hs] at hspelt
    exact absurd hspelt (by decide)

theorem isSendable_tracedSteps : ∀ g ∈ givenHeaders .post tracedSteps, IsSendable g.1 g.2 := by
  decide

/-- Of the two values the one is sent that is given in the small spelling, though the other one is
given after it. -/
theorem exists_headers_tracedSteps :
    ∃ hs, (ofSteps .post "/api/v1/app" tracedSteps).headers = .ok hs ∧
      (hs.get traceName).map (·.text) = ["1"] ∧
      lastFor traceName (givenHeaders .post tracedSteps) = some "2" ∧
      ∃ a ∈ (testClient.call (ofSteps .post "/api/v1/app" tracedSteps)
          unavailableOnce : Call Json).attempts,
        hs.get traceName <+: a.sent.headers.get traceName := by
  obtain ⟨hs, hhs, -, hlast, -, hsent⟩ := exists_headers_ofSteps (α := Json) .post "/api/v1/app"
    isSendable_tracedSteps
  have hp : (ofSteps .post "/api/v1/app" tracedSteps).prepare testClient.baseUrl =
      .ok ⟨.post, listingUrl, hs, none⟩ := prepare_eq_ok_iff.2 ⟨rfl, rfl, hhs, rfl⟩
  obtain ⟨a, ha, -⟩ := exists_mem_attempts (α := Json) (s := unavailableOnce) hp
  exact ⟨hs, hhs, hlast traceName "x-trace" isLastSpelling_tracedSteps, by decide, a, ha,
    hsent testClient unavailableOnce a ha traceName⟩

/-- The value that is given last for a name need not be sent. -/
theorem not_forall_last_is_sent :
    ¬ ∀ (method : Method) (template : String) (steps : List Request.Step) (hs : Headers)
      (name : HeaderName), (∀ g ∈ givenHeaders method steps, IsSendable g.1 g.2) →
      (ofSteps method template steps).headers = .ok hs →
      (hs.get name).map (·.text) = (lastFor name (givenHeaders method steps)).toList := by
  intro hall
  obtain ⟨hs, hhs⟩ := exists_headers_eq_ok
    (hasSendableHeaders_ofSteps "/api/v1/app" isSendable_tracedSteps)
  have hlast := hall .post "/api/v1/app" tracedSteps hs traceName isSendable_tracedSteps hhs
  rw [map_text_get_headers_ofSteps hhs isLastSpelling_tracedSteps] at hlast
  exact absurd hlast (by decide)

/-! ## Headers of a call, of the settings, and of the client -/

/-- What is sent under a name: what the request has under it, or else the default header that is
given last, or else what the client sends of itself. -/
def chosenText (hs : Headers) (steps : List Settings.Step) (token : String) (name : HeaderName) :
    Option String :=
  ((hs.get name).head?.map (·.text)).or
    ((lastFor name (Settings.givenHeaders steps)).or (builtIn token name))

section

variable {token : String} {o : Options} {steps : List Settings.Step} {settings : Settings}
  {idna : Url.Idna} {c : Client} {request : Request}

theorem map_text_get_sent (hsteps : Settings.ofSteps token o steps = .ok settings)
    (hc : build idna settings = .ok c) {p : Prepared} (hp : request.headers = .ok p.headers)
    (requestId retry : Nat) {name : HeaderName} (hown : name ∉ Sent.ownNames) :
    ((Sent.ofAttempt c p requestId retry).headers.get name).map (·.text) =
      (chosenText p.headers steps token name).toList := by
  have hown' : name ≠ Sent.requestIdName ∧ name ≠ Sent.retryCountName ∧
      name ≠ Sent.contentTypeName := by
    simpa [Sent.ownNames] using hown
  have hset : (p.headers.get name).map (·.text) =
      ((p.headers.get name).head?.map (·.text)).toList := by
    match p.headers.get name, length_get_headers_le hp name with
    | [], _ => rfl
    | [v], _ => rfl
  rw [Sent.get_ofAttempt hown'.1 hown'.2.1 hown'.2.2]
  exact Headers.map_text_elim_getLast? hset (map_text_get_headers_of_build hsteps hc name)

/-- Under each name an attempt leaves with one value at most: what is chosen for the name, or else
what the carrier adds. The standard carrier adds nothing but the types of answers that are accepted,
and one with default headers the last of the name too. Other than by what it adds a carrier changes
nothing but the headers that frame the request. -/
theorem exists_headers_carried (hsteps : Settings.ofSteps token o steps = .ok settings)
    (hc : build idna settings = .ok c) {s : Circumstances} {a : Attempt}
    (ha : a ∈ (c.call request s : Call α).attempts) :
    ∃ hs, request.headers = .ok hs ∧
      ∀ name, name ∉ Sent.ownNames → name ∉ Carrier.framingNames →
        ((c.carrier.carry a.sent).get name).map (·.text) =
            ((chosenText hs steps token name).or
              ((c.carrier.added a.sent name).map (·.text))).toList ∧
        (settings.carrier = none → (c.carrier.added a.sent name).map (·.text) =
          if name = Carrier.acceptName then some "*/*" else none) ∧
        ∀ defaults, settings.carrier = some (.ofDefaults defaults) →
          (c.carrier.added a.sent name).map (·.text) =
            ((defaults.get name).getLast?.map (·.text)).or
              (if name = Carrier.acceptName then some "*/*" else none) := by
  obtain ⟨p, retry, hp, hsent⟩ := headers_of_mem_attempts ha
  obtain ⟨-, -, hcarrier, -⟩ := fields_of_build hc
  refine ⟨p.headers, hp, fun name hown hframing => ⟨?_, fun hnone => ?_, ?_⟩⟩
  · have htexts : (a.sent.headers.get name).map (·.text) =
        (chosenText p.headers steps token name).toList := by
      rw [hsent]
      exact map_text_get_sent hsteps hc hp s.requestId retry hown
    rw [c.carrier.get_carry a.sent name hframing]
    -- The request has no header of the name just if nothing is chosen for it.
    cases hchosen : chosenText p.headers steps token name with
    | none =>
      rw [hchosen, Option.toList_none, List.map_eq_nil_iff] at htexts
      rw [if_pos htexts, Option.none_or]
      cases c.carrier.added a.sent name <;> rfl
    | some text =>
      rw [hchosen] at htexts
      have hne : a.sent.headers.get name ≠ [] := by
        intro hnil
        rw [hnil] at htexts
        cases htexts
      rw [if_neg hne, htexts, Option.some_or]
  · rw [hcarrier, hnone]
    exact Carrier.map_text_added_ofDefaults .empty a.sent name
  · intro defaults hdefaults
    rw [hcarrier, hdefaults]
    exact Carrier.map_text_added_ofDefaults defaults a.sent name

end

def tenantName : HeaderName := ⟨"x-tenant", by decide⟩

def teamName : HeaderName := ⟨"x-team", by decide⟩

/-- A carrier with two default headers. -/
def teamCarrier : Carrier :=
  .ofDefaults ⟨[(teamName, ⟨"t", by decide⟩), (traceName, ⟨"e", by decide⟩)]⟩

/-- Steps that give a carrier and default headers, one of them in two spellings, and one that the
client would send of itself. -/
def layeredSteps : List Settings.Step :=
  [.defaultHeader "X-Tenant" "a", .defaultHeader "x-trace" "d", .carrier teamCarrier,
    .defaultHeader "User-Agent" "u", .defaultHeader "x-tenant" "b"]

/-- The settings of `layeredSteps`. -/
def layeredSettings : Settings :=
  { Settings.ofToken "testsk" with
    carrier := some teamCarrier
    defaultHeaders := ⟨[(traceName, ⟨"d", by decide⟩), (userAgentName, ⟨"u", by decide⟩),
      (tenantName, ⟨"b", by decide⟩)]⟩ }

/-- The client of `layeredSettings`. -/
def layeredClient : Client :=
  { testClient with
    carrier := teamCarrier
    headers := testClient.headers.setAll layeredSettings.defaultHeaders }

theorem ofSteps_layeredSteps :
    Settings.ofSteps "testsk" ⟨none, none, none, none, false⟩ layeredSteps =
      .ok layeredSettings := rfl

theorem build_layeredSettings : build .plainNames layeredSettings = .ok layeredClient := rfl

/-- A request that sets a header of the settings anew. -/
def retracedRequest : Request := ofSteps .get "/api/v1/app" [.header "X-Trace" (some "c")]

theorem headers_retracedRequest :
    retracedRequest.headers = .ok ⟨[(traceName, ⟨"c", by decide⟩)]⟩ := rfl

theorem prepare_retracedRequest :
    retracedRequest.prepare layeredClient.baseUrl =
      .ok ⟨.get, listingUrl, ⟨[(traceName, ⟨"c", by decide⟩)]⟩, none⟩ :=
  prepare_eq_ok_iff.2 ⟨rfl, rfl, headers_retracedRequest, rfl⟩

/-- The header of the call, the later default header, what the client sends of itself, and what the
carrier adds each leave alone under their names. -/
theorem exists_headers_carried_layered :
    ∃ a ∈ (layeredClient.call retracedRequest unavailableOnce : Call Json).attempts,
      ((teamCarrier.carry a.sent).get traceName).map (·.text) = ["c"] ∧
      ((teamCarrier.carry a.sent).get tenantName).map (·.text) = ["b"] ∧
      ((teamCarrier.carry a.sent).get userAgentName).map (·.text) = ["u"] ∧
      ((teamCarrier.carry a.sent).get authorizationName).map (·.text) = ["Bearer testsk"] ∧
      ((teamCarrier.carry a.sent).get teamName).map (·.text) = ["t"] := by
  obtain ⟨a, ha, -⟩ :=
    exists_mem_attempts (α := Json) (s := unavailableOnce) prepare_retracedRequest
  obtain ⟨hs, hhs, hcarried⟩ := exists_headers_carried ofSteps_layeredSteps build_layeredSettings ha
  obtain rfl := Except.ok.inj (headers_retracedRequest.symm.trans hhs)
  refine ⟨a, ha, ?_, ?_, ?_, ?_, ?_⟩
  · exact (hcarried traceName (by decide) (by decide)).1
  · exact (hcarried tenantName (by decide) (by decide)).1
  · exact (hcarried userAgentName (by decide) (by decide)).1
  · exact (hcarried authorizationName (by decide) (by decide)).1
  · exact (hcarried teamName (by decide) (by decide)).1

/-- A request without a body that says how its body is divided. -/
def dividedRequest : Request :=
  ofSteps .get "/api/v1/app" [.header "Transfer-Encoding" (some "chunked")]

theorem headers_dividedRequest :
    dividedRequest.headers = .ok ⟨[(Carrier.encodingName, ⟨"chunked", by decide⟩)]⟩ := rfl

theorem prepare_dividedRequest :
    dividedRequest.prepare testClient.baseUrl =
      .ok ⟨.get, listingUrl, ⟨[(Carrier.encodingName, ⟨"chunked", by decide⟩)]⟩, none⟩ :=
  prepare_eq_ok_iff.2 ⟨rfl, rfl, headers_dividedRequest, rfl⟩

/-- A carrier of the caller may send what nothing has been chosen for, and the standard one drops
how a body is divided where there is none. -/
theorem not_forall_carried_eq_chosen :
    (¬ ∀ (token : String) (o : Options) (steps : List Settings.Step) (settings : Settings)
      (c : Client) (request : Request) (s : Circumstances) (a : Attempt) (hs : Headers)
      (name : HeaderName), Settings.ofSteps token o steps = .ok settings →
      build .plainNames settings = .ok c → a ∈ (c.call request s : Call Json).attempts →
      request.headers = .ok hs → name ∉ Sent.ownNames → name ≠ Carrier.hostName →
      name ≠ Carrier.acceptName → name ≠ Carrier.lengthName →
        ((c.carrier.carry a.sent).get name).map (·.text) =
          (chosenText hs steps token name).toList) ∧
    ¬ ∀ (token : String) (o : Options) (steps : List Settings.Step) (settings : Settings)
      (c : Client) (request : Request) (s : Circumstances) (a : Attempt) (hs : Headers)
      (name : HeaderName), Settings.ofSteps token o steps = .ok settings →
      settings.carrier = none → build .plainNames settings = .ok c →
      a ∈ (c.call request s : Call Json).attempts → request.headers = .ok hs →
      name ∉ Sent.ownNames → name ≠ Carrier.hostName → name ≠ Carrier.acceptName →
      name ≠ Carrier.lengthName →
        ((c.carrier.carry a.sent).get name).map (·.text) =
          (chosenText hs steps token name).toList := by
  constructor
  · intro hall
    obtain ⟨a, ha, hsent⟩ :=
      exists_mem_attempts (α := Json) (s := unavailableOnce) prepare_retracedRequest
    have hteam := hall _ _ _ _ _ _ _ a _ teamName ofSteps_layeredSteps build_layeredSettings ha
      headers_retracedRequest (by decide) (by decide) (by decide) (by decide)
    rw [hsent] at hteam
    exact absurd hteam (by decide)
  · intro hall
    obtain ⟨a, ha, hsent⟩ :=
      exists_mem_attempts (α := Json) (s := unavailableOnce) prepare_dividedRequest
    have hdivided := hall _ ⟨none, none, none, none, false⟩ [] _ _ _ _ a _ Carrier.encodingName
      rfl rfl build_testsk ha headers_dividedRequest (by decide) (by decide) (by decide) (by decide)
    rw [hsent] at hdivided
    exact absurd hdivided (by decide)

end Client

end WebhookClient
