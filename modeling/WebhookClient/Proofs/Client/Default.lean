import Mathlib
import WebhookClient.Client.Basic
import WebhookClient.Proofs.Url.Parser

/-!
# The client of a token alone

A token that names no region and can be presented makes a client of the default server, without
retries. Main statement: `build_ofToken`.
-/

set_option autoImplicit false

namespace WebhookClient.Client

/-- The default server. -/
def defaultUrl : Url :=
  ⟨"https".toList, [], [], some (.name "api.svix.com"), none, .segments [[]], none, none⟩

/-- The client of the default server that presents a token by a header value. -/
def ofBearer (auth : HeaderValue) : Client where
  baseUrl := defaultUrl
  headers := baseHeaders auth .empty
  carrier := .standard
  retrySchedule := []
  timeout := Settings.defaultTimeout
  debug := false
  scheme_allowed := rfl
  schedule_length := Nat.zero_le _

variable {idna : Url.Idna}

theorem parse_defaultServerUrl : Url.parse idna Region.defaultServerUrl = .ok defaultUrl := by
  rw [Url.parse_eq_of_isPlain "api.svix.com".toList (fun _ => rfl) rfl]
  rfl

theorem build_ofToken {token : String} {auth : HeaderValue}
    (hregion : Region.ofToken? token = none) (hauth : authorization token = .ok auth) :
    build idna (.ofToken token) = .ok (ofBearer auth) := by
  have hurl : (Settings.ofToken token).chosenServerUrl = Region.defaultServerUrl := by
    show serverUrlOfToken token = _
    rw [serverUrlOfToken, hregion]
  have hscheme : isServerScheme defaultUrl.scheme = true := rfl
  have hauth' : authorization (Settings.ofToken token).token = .ok auth := hauth
  have hlength : (Settings.ofToken token).retrySchedule.length ≤ maxRetries := Nat.zero_le _
  unfold build
  rw [dif_pos hlength, hurl, parse_defaultServerUrl]
  show (if hs : _ then _ else _) = _
  rw [dif_pos hscheme, hauth']
  rfl

/-- The client of the token `testsk`. -/
def testClient : Client := ofBearer ⟨"Bearer testsk", by decide⟩

theorem build_testsk : build idna (.ofToken "testsk") = .ok testClient := build_ofToken rfl rfl

end WebhookClient.Client
