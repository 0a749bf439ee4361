import WebhookClient.Client.Settings
import WebhookClient.Url.Parser

/-!
# Clients

A client is what settings amount to once they are checked: a server on the web, the headers of
all requests, what carries them, a schedule of retries that is not too long, and a time for each
attempt. Making one sends nothing. The checks come in the order schedule, URL, scheme, token.
-/

set_option autoImplicit false

namespace WebhookClient

/-- The schemes of servers. -/
def isServerScheme (scheme : List Char) : Bool :=
  scheme = "http".toList || scheme = "https".toList

/-- The greatest number of retries. -/
def maxRetries : Nat := 5

/-- A client of the service. All times are in milliseconds. -/
structure Client where
  baseUrl : Url
  /-- The headers of all requests. -/
  headers : Headers
  /-- What takes requests to the server. -/
  carrier : Carrier
  /-- The pauses before the second attempt, the third, and so on. -/
  retrySchedule : List Nat
  /-- The time for one attempt. -/
  timeout : Nat
  /-- Whether bodies are traced. -/
  debug : Bool
  scheme_allowed : isServerScheme baseUrl.scheme = true
  schedule_length : retrySchedule.length ≤ maxRetries

namespace Client

def authorizationName : HeaderName := ⟨"authorization", by decide⟩

def userAgentName : HeaderName := ⟨"user-agent", by decide⟩

/-- How the client names itself. -/
def userAgent : HeaderValue := ⟨"svix-libs/0.1.0/rust", by decide⟩

/-- The header value that presents a token. -/
def authorization (token : String) : Except Header.Fault HeaderValue :=
  HeaderValue.ofText ("Bearer " ++ token)

/-- The headers of all requests: the token and the name of the client, unless default headers
take their place. -/
def baseHeaders (auth : HeaderValue) (defaults : Headers) : Headers :=
  ((Headers.empty.set authorizationName auth).set userAgentName userAgent).setAll defaults

/-- Makes a client of settings. -/
def build (idna : Url.Idna) (s : Settings) : Except ConfigError Client :=
  if hl : s.retrySchedule.length ≤ maxRetries then
    match Url.parse idna s.chosenServerUrl with
    | .error e => .error (.invalidUrl e)
    | .ok url =>
      if hs : isServerScheme url.scheme then
        match authorization s.token with
        | .error e => .error (.invalidHeader authorizationName.text e.message)
        | .ok auth =>
          .ok
            { baseUrl := url
              headers := baseHeaders auth s.defaultHeaders
              carrier := s.carrier.getD .standard
              retrySchedule := s.retrySchedule
              timeout := s.timeout
              debug := s.debug
              scheme_allowed := hs
              schedule_length := hl }
      else .error (.unsupportedScheme url.schemeText)
  else .error (.retryScheduleTooLong s.retrySchedule.length maxRetries)

/-- Makes a client of a token and options. -/
def ofOptions (idna : Url.Idna) (token : String) (o : Options) : Except ConfigError Client :=
  build idna (.ofOptions token o)

/-- Makes a client of the variables of an environment. -/
def ofEnvironment (idna : Url.Idna) (lookup : String → Option String) :
    Except ConfigError Client := do
  build idna (← Settings.ofEnvironment lookup)

end Client

end WebhookClient
