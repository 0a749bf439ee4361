import Mathlib
import WebhookClient.Proofs.Call.Agreement
import WebhookClient.Proofs.Call.Sent
import WebhookClient.Proofs.Client.Construction
import WebhookClient.Proofs.Client.Region

/-!
# Where the token goes

The token of a client stands in the value of one header and nowhere else. Two clients whose
settings have the same server and differ in the token only make the same calls with the same
results and the same traces, except for that value; and what is reported of settings that make no
client is the same for all tokens. Main statement: `call_agrees_of_build`.
-/

set_option autoImplicit false

namespace WebhookClient

/-! ## Headers that differ under one name -/

/-- The same header lines but for the values under a name. -/
def Headers.SameBeside (name : HeaderName) (h g : Headers) : Prop :=
  List.Forall₂ (fun l m => l.1 = m.1 ∧ (l.1 ≠ name → l.2 = m.2)) h.lines g.lines

namespace Headers.SameBeside

variable {name : HeaderName} {h g : Headers}

theorem add (hg : h.SameBeside name g) (other : HeaderName) (value : HeaderValue) :
    (h.add other value).SameBeside name (g.add other value) :=
  List.rel_append hg (.cons ⟨rfl, fun _ => rfl⟩ .nil)

/-- Lines are told apart by their names alone when one is set. -/
theorem filter_ne (hg : h.SameBeside name g) (other : HeaderName) :
    (⟨h.lines.filter (·.1 ≠ other)⟩ : Headers).SameBeside name ⟨g.lines.filter (·.1 ≠ other)⟩ := by
  refine List.rel_filter (fun l m hlm => ?_) hg
  show decide (l.1 ≠ other) = true ↔ decide (m.1 ≠ other) = true
  rw [hlm.1]

theorem set (hg : h.SameBeside name g) (other : HeaderName) (value : HeaderValue) :
    (h.set other value).SameBeside name (g.set other value) :=
  (hg.filter_ne other).add other value

theorem setAll (hg : h.SameBeside name g) (others : Headers) :
    (h.setAll others).SameBeside name (g.setAll others) := by
  obtain ⟨ls⟩ := others
  induction ls generalizing h g with
  | nil => exact hg
  | cons l ls ih => exact ih (hg.set l.1 l.2)

end Headers.SameBeside

theorem Headers.sameBeside_set (name : HeaderName) (h : Headers) (v w : HeaderValue) :
    (h.set name v).SameBeside name (h.set name w) := by
  refine List.rel_append (List.forall₂_same.2 fun l _ => ⟨rfl, fun _ => rfl⟩) (.cons ⟨rfl, ?_⟩ .nil)
  exact fun hne => absurd rfl hne

/-- Requests as they are sent that are the same but for the values of one header. -/
structure Sent.SameButHeader (name : HeaderName) (a b : Sent) : Prop where
  method : a.method = b.method
  url : a.url = b.url
  body : a.body = b.body
  headers : a.headers.SameBeside name b.headers

theorem Sent.sameBeside_numbered {name : HeaderName} {c d : Client}
    (h : c.headers.SameBeside name d.headers) (requestId retry : Nat) :
    (numbered c requestId retry).SameBeside name (numbered d requestId retry) := by
  have hidentified := h.add requestIdName (number requestId)
  unfold numbered
  dsimp only
  split_ifs
  · exact hidentified
  · exact hidentified.add retryCountName (number retry)

/-- What an attempt adds to the headers of the client is the same for all clients. -/
theorem Sent.sameButHeader_ofAttempt {name : HeaderName} {c d : Client}
    (h : c.headers.SameBeside name d.headers) (p : Request.Prepared) (requestId retry : Nat) :
    (ofAttempt c p requestId retry).SameButHeader name (ofAttempt d p requestId retry) := by
  have hown := (sameBeside_numbered h requestId retry).setAll p.headers
  refine ⟨rfl, rfl, rfl, ?_⟩
  rw [headers_ofAttempt, headers_ofAttempt]
  split_ifs
  · exact hown.add contentTypeName jsonType
  · exact hown

namespace Client

variable {idna : Url.Idna} {s : Settings} {token token' : String} {c d : Client}

/-! ## Clients of two tokens -/

/-- The token is presented under its own name, which default headers may take from it. -/
theorem sameBeside_baseHeaders (auth auth' : HeaderValue) (defaults : Headers) :
    (baseHeaders auth defaults).SameBeside authorizationName (baseHeaders auth' defaults) :=
  ((Headers.sameBeside_set authorizationName .empty auth auth').set userAgentName
    userAgent).setAll defaults

theorem sameButHeaders_of_build {server : String} (hserver : s.serverUrl = some server)
    (hc : build idna { s with token := token } = .ok c)
    (hd : build idna { s with token := token' } = .ok d) : c.SameButHeaders d := by
  obtain ⟨hurl, -, hcarrier, hschedule, htimeout, hdebug⟩ := fields_of_build hc
  obtain ⟨hurl', -, hcarrier', hschedule', htimeout', hdebug'⟩ := fields_of_build hd
  have hchosen : ∀ t : String, ({ s with token := t } : Settings).chosenServerUrl = server := by
    intro t
    rw [Settings.chosenServerUrl, hserver]
    rfl
  rw [hchosen] at hurl hurl'
  exact ⟨Except.ok.inj (hurl.symm.trans hurl'), hcarrier.trans hcarrier'.symm,
    hschedule.trans hschedule'.symm, htimeout.trans htimeout'.symm, hdebug.trans hdebug'.symm⟩

theorem sameBeside_headers_of_build (hc : build idna { s with token := token } = .ok c)
    (hd : build idna { s with token := token' } = .ok d) :
    c.headers.SameBeside authorizationName d.headers := by
  obtain ⟨-, ⟨auth, -, hheaders⟩, -⟩ := fields_of_build hc
  obtain ⟨-, ⟨auth', -, hheaders'⟩, -⟩ := fields_of_build hd
  rw [hheaders, hheaders']
  exact sameBeside_baseHeaders auth auth' s.defaultHeaders

/-! ## Tokens that make no client -/

/-- The server of settings is the same for all tokens, or else one that is accepted for each of
them. -/
theorem chosenServerUrl_cases (idna : Url.Idna) (s : Settings) :
    (∀ t, ({ s with token := t } : Settings).chosenServerUrl = s.chosenServerUrl) ∨
      ∀ t, ∃ u, Url.parse idna ({ s with token := t } : Settings).chosenServerUrl = .ok u ∧
        HasServerScheme u := by
  obtain hserver | ⟨server, hserver⟩ := Option.eq_none_or_eq_some s.serverUrl
  · refine .inr fun t => ?_
    have hchosen : ({ s with token := t } : Settings).chosenServerUrl = serverUrlOfToken t := by
      rw [Settings.chosenServerUrl, hserver, Option.getD_none]
    rw [hchosen]
    cases h : Region.ofToken? t with
    | none =>
      rw [serverUrlOfToken_of_none h]
      exact ⟨_, parse_defaultServerUrl, .inr rfl⟩
    | some r =>
      rw [serverUrlOfToken_of_some h, r.parse_serverUrl]
      cases r <;> exact ⟨_, rfl, .inr rfl⟩
  · refine .inl fun t => ?_
    rw [Settings.chosenServerUrl, Settings.chosenServerUrl, hserver, Option.getD_some,
      Option.getD_some]

/-- What is reported of settings is reported of them with any other token, unless it is the token
that is refused: then the other token passes the checks that come before its own. -/
theorem Refused.withToken {e : ConfigError} (h : Refused idna { s with token := token } e)
    (token' : String) :
    Refused idna { s with token := token' } e ∨
      e = .invalidHeader "authorization" "failed to parse header value" ∧
        s.retrySchedule.length ≤ 5 ∧
        ∃ u, Url.parse idna ({ s with token := token' } : Settings).chosenServerUrl = .ok u ∧
          HasServerScheme u := by
  obtain hsame | haccepted := chosenServerUrl_cases idna s
  · cases h with
    | schedule hlong => exact .inl (.schedule hlong)
    | url hschedule hparse =>
      rw [hsame token, ← hsame token'] at hparse
      exact .inl (.url hschedule hparse)
    | scheme hschedule hparse hscheme =>
      rw [hsame token, ← hsame token'] at hparse
      exact .inl (.scheme hschedule hparse hscheme)
    | token hschedule hparse hscheme htoken =>
      rw [hsame token, ← hsame token'] at hparse
      exact .inr ⟨rfl, hschedule, _, hparse, hscheme⟩
  · obtain ⟨u, hu, hserver⟩ := haccepted token
    cases h with
    | schedule hlong => exact .inl (.schedule hlong)
    | url hschedule hparse =>
      rw [hu] at hparse
      cases hparse
    | scheme hschedule hparse hscheme =>
      rw [hu] at hparse
      cases hparse
      exact absurd hserver hscheme
    | token hschedule hparse hscheme htoken =>
      exact .inr ⟨rfl, hschedule, haccepted token'⟩

/-- What is reported of settings does not depend on the token. -/
theorem Refused.error_eq {e e' : ConfigError} (h : Refused idna { s with token := token } e)
    (h' : Refused idna { s with token := token' } e') : e = e' := by
  obtain hsame | ⟨rfl, hschedule, u, hu, hserver⟩ := h.withToken token'
  · exact Except.error.inj ((build_of_refused hsame).symm.trans (build_of_refused h'))
  · -- The other token fails its own check, as all checks before it are passed.
    cases h' with
    | schedule hlong => exact absurd hschedule (Nat.not_le_of_gt hlong)
    | url _ hparse =>
      rw [hu] at hparse
      cases hparse
    | scheme _ hparse hscheme =>
      rw [hu] at hparse
      cases hparse
      exact absurd hserver hscheme
    | token => rfl

/-! ## The token in calls -/

/-- Of two clients with the same settings, of which the server is one, and different tokens the
calls are the same, attempt by attempt, but for the values of one header, and leave the same result
and the same trace. Of settings that make no client the same is reported with all tokens. -/
theorem call_agrees_of_build :
    (∀ (idna : Url.Idna) (s : Settings) (server token token' : String) (c d : Client),
      s.serverUrl = some server → build idna { s with token := token } = .ok c →
      build idna { s with token := token' } = .ok d →
      ∀ (α : Type) (_ : Json.Wire α) (request : Request) (x : Circumstances),
        (c.call request x : Call α).Agrees (Sent.SameButHeader authorizationName)
          (d.call request x)) ∧
    ∀ (idna : Url.Idna) (s : Settings) (token token' : String) (e e' : ConfigError),
      build idna { s with token := token } = .error e →
      build idna { s with token := token' } = .error e' → e = e' := by
  constructor
  · intro idna s server token token' c d hserver hc hd α _ request x
    have hheaders := sameBeside_headers_of_build hc hd
    exact (sameButHeaders_of_build hserver hc hd).call_agrees fun p retry =>
      Sent.sameButHeader_ofAttempt hheaders p x.requestId retry
  · intro idna s token token' e e' he he'
    exact ((build_eq_error_iff _ _ _).1 he).error_eq ((build_eq_error_iff _ _ _).1 he')

/-- Settings that name the default server. -/
def servedSettings : Settings :=
  { Settings.ofToken "testsk" with serverUrl := some "https://api.svix.com" }

/-- The client of `servedSettings` with another token. -/
def otherClient : Client := ofBearer ⟨"Bearer other.eu", by decide⟩

/-- Two tokens, of which one names a region, make the same calls of a server that is named; and two
tokens with line breaks are refused alike. -/
theorem call_agrees_listing :
    build .plainNames { servedSettings with token := "testsk" } = .ok testClient ∧
      build .plainNames { servedSettings with token := "other.eu" } = .ok otherClient ∧
      testClient.headers ≠ otherClient.headers ∧
      (testClient.call listing unavailableOnce : Call Json).Agrees
        (Sent.SameButHeader authorizationName) (otherClient.call listing unavailableOnce) ∧
      ∀ e e', build .plainNames { servedSettings with token := "\n" } = .error e →
        build .plainNames { servedSettings with token := "a\r" } = .error e' → e = e' := by
  have hc : build .plainNames { servedSettings with token := "testsk" } = .ok testClient := rfl
  have hd : build .plainNames { servedSettings with token := "other.eu" } = .ok otherClient := rfl
  refine ⟨hc, hd, by decide, ?_, fun e e' he he' => ?_⟩
  · exact call_agrees_of_build.1 _ servedSettings _ _ _ _ _ rfl hc hd Json _ listing unavailableOnce
  · exact call_agrees_of_build.2 _ servedSettings _ _ e e' he he'

end Client

end WebhookClient
