import Mathlib
import WebhookClient.Proofs.Call.Checks
import WebhookClient.Proofs.Client.Steps
import WebhookClient.Proofs.Client.Use
import WebhookClient.Proofs.Operation.Key

/-!
# Where keys go

On a client without a key of its own, every attempt of a call sends the key of its request, and none
without one; a call with a key that cannot be sent ends at once (`CarriesKey`). This holds of all
operations and of all requests that are put together in steps. Main statement:
`carriesKey_of_build`.
-/

set_option autoImplicit false

namespace WebhookClient

open Header Operation

/-- What a call makes of the key of its request. -/
structure Call.CarriesKey {α : Type} (call : Call α) (request : Request) (start : Nat)
    (key : Option String) : Prop where
  /-- Every attempt sends the key unchanged and alone, and without a key nothing under its name. -/
  sent : ∀ a ∈ call.attempts,
    (a.sent.headers.get idempotencyKeyHeader).map (·.text) = key.toList
  /-- If the key can be sent, and nothing else stands in the way, there is an attempt. -/
  attempted : request.IsFillable →
    (∀ l ∈ request.headerParams.entries, l.1 ≠ Request.idempotencyKeyName → IsSendable l.1 l.2) →
    (∀ e, request.body ≠ some (.error e)) → (∀ k ∈ key, isValue k.toList = true) →
    call.attempts ≠ []
  /-- If the key cannot be sent nothing is. -/
  refused : ∀ k ∈ key, ¬ isValue k.toList = true →
    ∃ e, request.KeyFault e ∧ call.EndsAtOnce start e

namespace Client

variable {α : Type} [Json.Wire α] {c : Client} {request : Request} {s : Circumstances}
  {key : Option String} {idna : Url.Idna} {settings : Settings}

/-! ## One call -/

/-- Of itself a client has no key. -/
theorem get_headers_of_build (hc : build idna settings = .ok c)
    (hdefaults : settings.defaultHeaders.get idempotencyKeyHeader = []) :
    c.headers.get idempotencyKeyHeader = [] := by
  obtain ⟨auth, -, hheaders⟩ := headers_of_build hc
  rw [hheaders, baseHeaders, Headers.get_setAll, hdefaults]
  show ((Headers.empty.set authorizationName auth).set userAgentName userAgent).get _ = []
  rw [Headers.get_set_of_ne (by decide), Headers.get_set_of_ne (by decide)]
  rfl

theorem keysFor_of_build (hc : build idna settings = .ok c)
    (hdefaults : settings.defaultHeaders.get idempotencyKeyHeader = []) (key : Option String) :
    c.keysFor key = key.toList := by
  cases key with
  | none =>
    show (c.headers.get idempotencyKeyHeader).map (·.text) = []
    rw [get_headers_of_build hc hdefaults]
    rfl
  | some k => rfl

/-- A key is the only header of its name, so if it can be sent it is not in the way. -/
theorem hasSendableHeaders_of_hasKey (h : request.HasKey key)
    (hkey : ∀ k ∈ key, isValue k.toList = true)
    (hothers : ∀ l ∈ request.headerParams.entries, l.1 ≠ Request.idempotencyKeyName →
      IsSendable l.1 l.2) : request.HasSendableHeaders := by
  intro l hl
  by_cases hname : l.1 = Request.idempotencyKeyName
  · have hget : request.headerParams.get? l.1 = some l.2 := Dict.get?_eq_some_iff.2 hl
    rw [hname, h.get?] at hget
    rw [hname]
    exact ⟨by decide, hkey _ hget⟩
  · exact hothers l hl hname

theorem carriesKey_call (h : request.HasKey key) (hc : build idna settings = .ok c)
    (hdefaults : settings.defaultHeaders.get idempotencyKeyHeader = []) :
    (c.call request s : Call α).CarriesKey request s.startedAt key where
  sent a ha := by
    obtain ⟨p, retry, hp, hsent⟩ := exists_of_mem_attempts ha
    have hheaders := (Request.prepare_eq_ok_iff.1 hp).2.2.1
    rw [hsent, map_text_get_of_hasKey h hheaders, keysFor_of_build hc hdefaults]
  attempted hpath hothers hbody hkey := by
    obtain ⟨p, hp⟩ := Request.exists_prepare_eq_ok (exists_path?_of_build hc) hpath
      (hasSendableHeaders_of_hasKey h hkey hothers) hbody
    exact attempts_ne_nil hp
  refused := by
    rintro k rfl hk
    obtain ⟨e, he, hprepare⟩ := h.exists_keyFault hk (exists_path?_of_build hc)
    exact ⟨e, he, endsAtOnce_iff.2 hprepare⟩

/-! ## All calls -/

/-- Every use of an operation sends the key that it is given if its method has one, and so does the
call of a request that steps put together, with the key that is given last among them. If the path
of an operation has no fault there is an attempt, unless the key cannot be sent, which is
reported. -/
theorem carriesKey_of_build (hc : build idna settings = .ok c)
    (hdefaults : settings.defaultHeaders.get idempotencyKeyHeader = []) (s : Circumstances) :
    (∀ (op : Operation) (args : op.Arguments),
      (c.use op args s).CarriesKey (op.request args) s.startedAt
        (op.method.keyOf args.idempotencyKey) ∧
      ((op.request args).IsFillable →
        (∀ k ∈ op.method.keyOf args.idempotencyKey, isValue k.toList = true) →
          (c.use op args s).attempts ≠ []) ∧
      ((op.request args).IsFillable →
        ∀ k ∈ op.method.keyOf args.idempotencyKey, ¬ isValue k.toList = true →
          (c.use op args s).EndsAtOnce s.startedAt
            (.invalidHeader Request.idempotencyKeyName Fault.value.message))) ∧
    ∀ (method : Method) (template : String) (steps : List Request.Step),
      Request.LeaveKey steps →
      (c.call (Request.ofSteps method template steps) s : Call α).CarriesKey
        (Request.ofSteps method template steps) s.startedAt
        (method.keyOf (Request.lastKey? steps)) := by
  refine ⟨fun op args => ?_, fun method template steps h =>
    carriesKey_call (Request.hasKey_ofSteps method template h) hc hdefaults⟩
  let _ := op.answer.wire
  have hcarries : (c.use op args s).CarriesKey (op.request args) s.startedAt
      (op.method.keyOf args.idempotencyKey) :=
    carriesKey_call (Operation.hasKey_request args) hc hdefaults
  refine ⟨hcarries, fun hpath hkey => ?_, fun hpath k hk hvalue => ?_⟩
  · have hothers : ∀ l ∈ (op.request args).headerParams.entries,
        l.1 ≠ Request.idempotencyKeyName → IsSendable l.1 l.2 :=
      fun l hl hne => absurd (Operation.fst_eq_of_mem_headerParams args hl) hne
    exact hcarries.attempted hpath hothers (Operation.body_request_ne_error args) hkey
  · obtain ⟨e, he, hend⟩ := hcarries.refused k hk hvalue
    rwa [← Operation.eq_of_keyFault_request args hpath he]

/-- Steps that give two keys, and a header and no key after them. -/
def rekeyedSteps : List Request.Step :=
  [.idempotencyKey (some "a"), .header "X-Trace" (some "1"), .idempotencyKey (some "b"),
    .idempotencyKey none]

theorem leaveKey_rekeyedSteps : Request.LeaveKey rekeyedSteps := by
  intro name value h
  obtain ⟨rfl, rfl⟩ : name = "X-Trace" ∧ value = "1" := by simpa [rekeyedSteps] using h
  decide

/-- A key is sent with the request to log out and with one that steps put together, where the last
one counts; a key with a line break is reported, and a listing has none. -/
theorem carriesKey_logout :
    (∃ a ∈ (testClient.use Authentication.logout (logoutArguments (some "k")) answered).attempts,
      (a.sent.headers.get idempotencyKeyHeader).map (·.text) = ["k"]) ∧
    (testClient.use Authentication.logout (logoutArguments (some "a\nb")) answered).EndsAtOnce 0
      (.invalidHeader "idempotency-key" "failed to parse header value") ∧
    (∃ a ∈ (testClient.call (Request.ofSteps .post "/api/v1/app" rekeyedSteps) answered :
        Call Json).attempts,
      (a.sent.headers.get idempotencyKeyHeader).map (·.text) = ["b"]) ∧
    ∃ a ∈ (testClient.call (Request.ofSteps .get "/api/v1/app" rekeyedSteps) answered :
        Call Json).attempts,
      (a.sent.headers.get idempotencyKeyHeader).map (·.text) = [] := by
  have hc : build .plainNames (.ofToken "testsk") = .ok testClient := build_testsk
  obtain ⟨huse, hcall⟩ := carriesKey_of_build (α := Json) hc rfl answered
  refine ⟨?_, ?_, ?_, ?_⟩
  · obtain ⟨hcarries, hattempted, -⟩ := huse Authentication.logout (logoutArguments (some "k"))
    obtain ⟨a, ha⟩ := List.exists_mem_of_ne_nil _ (hattempted (by decide) (by decide))
    exact ⟨a, ha, hcarries.sent a ha⟩
  · obtain ⟨-, -, hrefused⟩ := huse Authentication.logout (logoutArguments (some "a\nb"))
    exact hrefused (by decide) "a\nb" rfl (by decide)
  · have hcarries := hcall .post "/api/v1/app" rekeyedSteps leaveKey_rekeyedSteps
    obtain ⟨a, ha⟩ := List.exists_mem_of_ne_nil _
      (hcarries.attempted (by decide) (by decide) (fun e h => by cases h) (by decide))
    exact ⟨a, ha, hcarries.sent a ha⟩
  · have hcarries := hcall .get "/api/v1/app" rekeyedSteps leaveKey_rekeyedSteps
    obtain ⟨a, ha⟩ := List.exists_mem_of_ne_nil _
      (hcarries.attempted (by decide) (by decide) (fun e h => by cases h) (by decide))
    exact ⟨a, ha, hcarries.sent a ha⟩

/-- The arguments that ask for access to the dashboard of an application without a name. -/
def namelessArguments (key : String) : Authentication.dashboardAccess.Arguments where
  ids := [""]
  options := ()
  payload := ()
  idempotencyKey := some key
  length_ids := rfl

/-- Steps that give a header whose name cannot be sent, and a key that cannot be either. -/
def misnamedSteps : List Request.Step :=
  [.header "a b" (some "1"), .idempotencyKey (some "a\nb")]

theorem leaveKey_misnamedSteps : Request.LeaveKey misnamedSteps := by
  intro name value h
  obtain ⟨rfl, rfl⟩ : name = "a b" ∧ value = "1" := by simpa [misnamedSteps] using h
  decide

/-- A key that cannot be sent is not reported where the path has a fault, nor where a header with a
lesser spelling cannot be sent. -/
theorem not_forall_key_is_reported :
    (¬ ∀ (settings : Settings) (c : Client) (op : Operation) (args : op.Arguments) (k : String)
      (s : Circumstances), build .plainNames settings = .ok c →
      settings.defaultHeaders.get idempotencyKeyHeader = [] → op ∈ catalog → op.method = .post →
      args.idempotencyKey = some k → ¬ isValue k.toList = true →
      ∃ message, (c.use op args s).EndsAtOnce s.startedAt
        (.invalidHeader Request.idempotencyKeyName message)) ∧
    ¬ ∀ (settings : Settings) (c : Client) (template : String) (steps : List Request.Step)
      (k : String) (s : Circumstances), build .plainNames settings = .ok c →
      settings.defaultHeaders.get idempotencyKeyHeader = [] → Request.LeaveKey steps →
      Request.lastKey? steps = some k → ¬ isValue k.toList = true →
      ∃ message, (c.call (Request.ofSteps .post template steps) s : Call Json).EndsAtOnce
        s.startedAt (.invalidHeader Request.idempotencyKeyName message) := by
  constructor
  · intro hall
    have hmem : Authentication.dashboardAccess ∈ catalog := by simp [catalog, Authentication.all]
    obtain ⟨message, hend⟩ := hall (.ofToken "testsk") testClient Authentication.dashboardAccess
      (namelessArguments "a\nb") "a\nb" answered build_testsk rfl hmem rfl rfl (by decide)
    have hprepare : (Authentication.dashboardAccess.request (namelessArguments "a\nb")).prepare
        testClient.baseUrl =
          .error (.invalidPathParam "app_id" "" Authentication.dashboardAccess.template) :=
      Request.prepare_of_expand_eq_error rfl
    have hend' : (testClient.use Authentication.dashboardAccess (namelessArguments "a\nb")
        answered).EndsAtOnce answered.startedAt
          (.invalidPathParam "app_id" "" Authentication.dashboardAccess.template) := by
      let _ := Authentication.dashboardAccess.answer.wire
      exact (endsAtOnce_iff (α := Authentication.dashboardAccess.answer.Value)).2 hprepare
    have hresult := hend.result.symm.trans hend'.result
    cases hresult
  · intro hall
    obtain ⟨message, hend⟩ := hall (.ofToken "testsk") testClient "/api/v1/app" misnamedSteps "a\nb"
      answered build_testsk rfl leaveKey_misnamedSteps rfl (by decide)
    have hprepare : (Request.ofSteps .post "/api/v1/app" misnamedSteps).prepare testClient.baseUrl =
        .error (.invalidHeader "a b" "invalid HTTP header name") :=
      Request.prepare_of_headers_eq_error ⟨_, rfl⟩ (by decide) rfl
    have herror := (endsAtOnce_iff.1 hend).symm.trans hprepare
    injection Except.error.inj herror with hname
    exact absurd hname (by decide)

end Client

end WebhookClient
