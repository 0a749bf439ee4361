import WebhookClient.Json.Enumeration

/-!
# Regions

The service runs in several regions. A token names its region after its last dot; a token that
names none belongs to the default server.
-/

set_option autoImplicit false

namespace WebhookClient

open Json

/-- A region of the service. -/
inductive Region where
  | us
  | eu
  | india
deriving DecidableEq, Repr

namespace Region

instance : Named Region where
  all := [.us, .eu, .india]
  name
    | .us => "us"
    | .eu => "eu"
    | .india => "in"
  mem_all a := by cases a <;> simp
  name_injective a b := by cases a <;> cases b <;> simp

/-- The server of a region. -/
def serverUrl : Region → String
  | .us => "https://api.us.svix.com"
  | .eu => "https://api.eu.svix.com"
  | .india => "https://api.in.svix.com"

/-- The server of tokens that name no region. -/
def defaultServerUrl : String := "https://api.svix.com"

/-- What follows the last dot of a token; without a dot, all of it. -/
def lastPart (token : String) : String :=
  String.ofList (token.toList.reverse.takeWhile (· ≠ '.')).reverse

/-- The region that a token names. -/
def ofToken? (token : String) : Option Region := Named.ofName? (lastPart token)

end Region

/-- The server that a token belongs to. -/
def serverUrlOfToken (token : String) : String :=
  match Region.ofToken? token with
  | some r => r.serverUrl
  | none => Region.defaultServerUrl

end WebhookClient
