import WebhookClient.Json.Record

/-!
# Operational webhook records

An operational endpoint is told what happens in the service itself, such as an endpoint being
disabled.
-/

set_option autoImplicit false

namespace WebhookClient

open Json

/-- An operational endpoint to create. -/
structure OperationalWebhookEndpointIn where
  url : String
  description : String
  rateLimit : Option (Bounded .u16)
  uid : Option String
  disabled : Option Bool
  filterTypes : Option (List String)
  secret : Option String
  metadata : Option (Dict String)
deriving BEq

instance : Record OperationalWebhookEndpointIn where
  title := "OperationalWebhookEndpointIn"
  types := [String, String, Option (Bounded .u16), Option String, Option Bool, Option (List
    String), Option String, Option (Dict String)]
  fields :=
    .cons (.required "url") <|
    .cons (.defaulting "description" "") <|
    .cons (.optional "rateLimit") <|
    .cons (.optional "uid") <|
    .cons (.optional "disabled") <|
    .cons (.optional "filterTypes") <|
    .cons (.optional "secret") <|
    .cons (.optional "metadata") <|
    .nil
  toRow r := (r.url, r.description, r.rateLimit, r.uid, r.disabled, r.filterTypes, r.secret,
    r.metadata, ())
  ofRow := fun (url, description, rateLimit, uid, disabled, filterTypes, secret, metadata, ()) =>
    ⟨url, description, rateLimit, uid, disabled, filterTypes, secret, metadata⟩

/-- An operational endpoint with a URL and nothing else. -/
def OperationalWebhookEndpointIn.new (url : String) : OperationalWebhookEndpointIn :=
  ⟨url, "", none, none, none, none, none, none⟩

/-- An operational endpoint to replace another by. -/
structure OperationalWebhookEndpointUpdate where
  url : String
  description : String
  rateLimit : Option (Bounded .u16)
  uid : Option String
  disabled : Option Bool
  filterTypes : Option (List String)
  metadata : Option (Dict String)
deriving BEq, Inhabited

instance : Record OperationalWebhookEndpointUpdate where
  title := "OperationalWebhookEndpointUpdate"
  types := [String, String, Option (Bounded .u16), Option String, Option Bool, Option (List
    String), Option (Dict String)]
  fields :=
    .cons (.required "url") <|
    .cons (.defaulting "description" "") <|
    .cons (.optional "rateLimit") <|
    .cons (.optional "uid") <|
    .cons (.optional "disabled") <|
    .cons (.optional "filterTypes") <|
    .cons (.optional "metadata") <|
    .nil
  toRow r := (r.url, r.description, r.rateLimit, r.uid, r.disabled, r.filterTypes, r.metadata, ())
  ofRow := fun (url, description, rateLimit, uid, disabled, filterTypes, metadata, ()) =>
    ⟨url, description, rateLimit, uid, disabled, filterTypes, metadata⟩

/-- An operational endpoint of the service. -/
structure OperationalWebhookEndpointOut where
  id : String
  uid : Option String
  url : String
  description : String
  rateLimit : Option (Bounded .u16)
  disabled : Option Bool
  filterTypes : Option (List String)
  metadata : Dict String
  createdAt : Instant
  updatedAt : Instant
deriving BEq

instance : Record OperationalWebhookEndpointOut where
  title := "OperationalWebhookEndpointOut"
  types := [String, Option String, String, String, Option (Bounded .u16), Option Bool, Option
    (List String), Dict String, Instant, Instant]
  fields :=
    .cons (.required "id") <|
    .cons (.optional "uid") <|
    .cons (.required "url") <|
    .cons (.required "description") <|
    .cons (.optional "rateLimit") <|
    .cons (.optional "disabled") <|
    .cons (.optional "filterTypes") <|
    .cons (.required "metadata") <|
    .cons (.required "createdAt") <|
    .cons (.required "updatedAt") <|
    .nil
  toRow r := (r.id, r.uid, r.url, r.description, r.rateLimit, r.disabled, r.filterTypes,
    r.metadata, r.createdAt, r.updatedAt, ())
  ofRow := fun (id, uid, url, description, rateLimit, disabled, filterTypes, metadata, createdAt,
    updatedAt, ()) =>
    ⟨id, uid, url, description, rateLimit, disabled, filterTypes, metadata, createdAt, updatedAt⟩

/-- The key that signs messages to an operational endpoint. -/
structure OperationalWebhookEndpointSecretOut where
  key : String
deriving BEq

instance : Record OperationalWebhookEndpointSecretOut where
  title := "OperationalWebhookEndpointSecretOut"
  types := [String]
  fields :=
    .cons (.required "key") <|
    .nil
  toRow r := (r.key, ())
  ofRow := fun (key, ()) =>
    ⟨key⟩

/-- A new key; the service makes one up if there is none. -/
structure OperationalWebhookEndpointSecretIn where
  key : Option String
deriving BEq, Inhabited

instance : Record OperationalWebhookEndpointSecretIn where
  title := "OperationalWebhookEndpointSecretIn"
  types := [Option String]
  fields :=
    .cons (.optional "key") <|
    .nil
  toRow r := (r.key, ())
  ofRow := fun (key, ()) =>
    ⟨key⟩

end WebhookClient
