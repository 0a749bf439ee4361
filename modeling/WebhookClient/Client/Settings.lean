import WebhookClient.Client.Carrier
import WebhookClient.Client.Region
import WebhookClient.Failure
import WebhookClient.Header

/-!
# Settings of a client

What a client is made from: a token and what may be set beside it. Default headers are checked
one by one as they are added; all else is checked when the client is made.
-/

set_option autoImplicit false

namespace WebhookClient

/-- The settings of a client. All times are in milliseconds. -/
structure Settings where
  token : String
  /-- The server, in place of that of the token. -/
  serverUrl : Option String
  /-- What takes requests to the server, in place of the standard carrier. -/
  carrier : Option Carrier
  /-- The time for one attempt. -/
  timeout : Nat
  /-- The pauses before the second attempt, the third, and so on. -/
  retrySchedule : List Nat
  /-- Whether bodies are traced. -/
  debug : Bool
  /-- The headers of all requests. -/
  defaultHeaders : Headers

/-- The settings that may be given together with a token, each of them or not. -/
structure Options where
  serverUrl : Option String
  carrier : Option Carrier
  timeout : Option Nat
  retrySchedule : Option (List Nat)
  debug : Bool

namespace Settings

/-- The time for one attempt if none is set. -/
def defaultTimeout : Nat := 30 * 1000

/-- The settings of a token alone. -/
def ofToken (token : String) : Settings :=
  ⟨token, none, none, defaultTimeout, [], false, .empty⟩

/-- The settings of a token and options. -/
def ofOptions (token : String) (o : Options) : Settings where
  token := token
  serverUrl := o.serverUrl
  carrier := o.carrier
  timeout := o.timeout.getD defaultTimeout
  retrySchedule := o.retrySchedule.getD []
  debug := o.debug
  defaultHeaders := .empty

/-- Adds a default header, in place of an earlier one of its name. The name is checked before the
value. -/
def addDefaultHeader (name value : String) (s : Settings) : Except ConfigError Settings := do
  let n ← (HeaderName.ofText name).mapError fun e => .invalidHeader name e.message
  let v ← (HeaderValue.ofText value).mapError fun e => .invalidHeader name e.message
  .ok { s with defaultHeaders := s.defaultHeaders.set n v }

/-- The server: the one that is set, or else that of the token. -/
def chosenServerUrl (s : Settings) : String := s.serverUrl.getD (serverUrlOfToken s.token)

/-- The variable of the environment that holds the token. -/
def tokenVariable : String := "SVIX_AUTH_TOKEN"

/-- The variable of the environment that holds the server, if one is set. -/
def serverUrlVariable : String := "SVIX_SERVER_URL"

/-- The settings of an environment. A variable that is empty counts as not set. -/
def ofEnvironment (lookup : String → Option String) : Except ConfigError Settings :=
  match (lookup tokenVariable).filter (· ≠ "") with
  | none => .error (.missingVariable tokenVariable)
  | some token =>
    .ok { ofToken token with serverUrl := (lookup serverUrlVariable).filter (· ≠ "") }

end Settings

end WebhookClient
