import WebhookClient.Json.Record

/-!
# Endpoint records

An endpoint is a URL that the messages of an application are delivered to.
-/

set_option autoImplicit false

namespace WebhookClient

open Json

/-- An endpoint to create. -/
structure EndpointIn where
  url : String
  description : String
  rateLimit : Option (Bounded .u16)
  uid : Option String
  disabled : Option Bool
  filterTypes : Option (List String)
  /-- The channels listened to; all if there are none. -/
  channels : Option (List String)
  /-- The key of signatures; the service makes one up if there is none. -/
  secret : Option String
  metadata : Option (Dict String)
deriving BEq

instance : Record EndpointIn where
  title := "EndpointIn"
  types := [String, String, Option (Bounded .u16), Option String, Option Bool, Option (List
    String), Option (List String), Option String, Option (Dict String)]
  fields :=
    .cons (.required "url") <|
    .cons (.defaulting "description" "") <|
    .cons (.optional "rateLimit") <|
    .cons (.optional "uid") <|
    .cons (.optional "disabled") <|
    .cons (.optional "filterTypes") <|
    .cons (.optional "channels") <|
    .cons (.optional "secret") <|
    .cons (.optional "metadata") <|
    .nil
  toRow r := (r.url, r.description, r.rateLimit, r.uid, r.disabled, r.filterTypes, r.channels,
    r.secret, r.metadata, ())
  ofRow := fun (url, description, rateLimit, uid, disabled, filterTypes, channels, secret,
    metadata, ()) =>
    ⟨url, description, rateLimit, uid, disabled, filterTypes, channels, secret, metadata⟩

/-- An endpoint with a URL and nothing else. -/
def EndpointIn.new (url : String) : EndpointIn :=
  ⟨url, "", none, none, none, none, none, none, none⟩

/-- An endpoint to replace another by. -/
structure EndpointUpdate where
  url : String
  description : String
  rateLimit : Option (Bounded .u16)
  uid : Option String
  disabled : Option Bool
  filterTypes : Option (List String)
  channels : Option (List String)
  metadata : Option (Dict String)
deriving BEq, Inhabited

instance : Record EndpointUpdate where
  title := "EndpointUpdate"
  types := [String, String, Option (Bounded .u16), Option String, Option Bool, Option (List
    String), Option (List String), Option (Dict String)]
  fields :=
    .cons (.required "url") <|
    .cons (.defaulting "description" "") <|
    .cons (.optional "rateLimit") <|
    .cons (.optional "uid") <|
    .cons (.optional "disabled") <|
    .cons (.optional "filterTypes") <|
    .cons (.optional "channels") <|
    .cons (.optional "metadata") <|
    .nil
  toRow r := (r.url, r.description, r.rateLimit, r.uid, r.disabled, r.filterTypes, r.channels,
    r.metadata, ())
  ofRow := fun (url, description, rateLimit, uid, disabled, filterTypes, channels, metadata, ())
    =>
    ⟨url, description, rateLimit, uid, disabled, filterTypes, channels, metadata⟩

/-- A partial update of an endpoint. -/
structure EndpointPatch where
  url : Option String
  description : Option String
  rateLimit : Nullable (Bounded .u16)
  uid : Nullable String
  disabled : Option Bool
  filterTypes : Nullable (List String)
  channels : Nullable (List String)
  secret : Nullable String
  metadata : Option (Dict String)
deriving BEq, Inhabited

instance : Record EndpointPatch where
  title := "EndpointPatch"
  types := [Option String, Option String, Nullable (Bounded .u16), Nullable String, Option Bool,
    Nullable (List String), Nullable (List String), Nullable String, Option (Dict String)]
  fields :=
    .cons (.optional "url") <|
    .cons (.optional "description") <|
    .cons (.nullable "rateLimit") <|
    .cons (.nullable "uid") <|
    .cons (.optional "disabled") <|
    .cons (.nullable "filterTypes") <|
    .cons (.nullable "channels") <|
    .cons (.nullable "secret") <|
    .cons (.optional "metadata") <|
    .nil
  toRow r := (r.url, r.description, r.rateLimit, r.uid, r.disabled, r.filterTypes, r.channels,
    r.secret, r.metadata, ())
  ofRow := fun (url, description, rateLimit, uid, disabled, filterTypes, channels, secret,
    metadata, ()) =>
    ⟨url, description, rateLimit, uid, disabled, filterTypes, channels, secret, metadata⟩

/-- An endpoint of the service. -/
structure EndpointOut where
  id : String
  uid : Option String
  url : String
  description : String
  version : Bounded .i32
  rateLimit : Option (Bounded .u16)
  disabled : Option Bool
  filterTypes : Option (List String)
  channels : Option (List String)
  metadata : Dict String
  createdAt : Instant
  updatedAt : Instant
deriving BEq

instance : Record EndpointOut where
  title := "EndpointOut"
  types := [String, Option String, String, String, Bounded .i32, Option (Bounded .u16), Option
    Bool, Option (List String), Option (List String), Dict String, Instant, Instant]
  fields :=
    .cons (.required "id") <|
    .cons (.optional "uid") <|
    .cons (.required "url") <|
    .cons (.required "description") <|
    .cons (.required "version") <|
    .cons (.optional "rateLimit") <|
    .cons (.optional "disabled") <|
    .cons (.optional "filterTypes") <|
    .cons (.optional "channels") <|
    .cons (.required "metadata") <|
    .cons (.required "createdAt") <|
    .cons (.required "updatedAt") <|
    .nil
  toRow r := (r.id, r.uid, r.url, r.description, r.version, r.rateLimit, r.disabled,
    r.filterTypes, r.channels, r.metadata, r.createdAt, r.updatedAt, ())
  ofRow := fun (id, uid, url, description, version, rateLimit, disabled, filterTypes, channels,
    metadata, createdAt, updatedAt, ()) =>
    ⟨id, uid, url, description, version, rateLimit, disabled, filterTypes, channels, metadata,
    createdAt, updatedAt⟩

/-- The key that signs messages to an endpoint. -/
structure EndpointSecretOut where
  key : String
deriving BEq

instance : Record EndpointSecretOut where
  title := "EndpointSecretOut"
  types := [String]
  fields :=
    .cons (.required "key") <|
    .nil
  toRow r := (r.key, ())
  ofRow := fun (key, ()) =>
    ⟨key⟩

/-- A new key; the service makes one up if there is none. -/
structure EndpointSecretRotateIn where
  key : Option String
deriving BEq, Inhabited

instance : Record EndpointSecretRotateIn where
  title := "EndpointSecretRotateIn"
  types := [Option String]
  fields :=
    .cons (.optional "key") <|
    .nil
  toRow r := (r.key, ())
  ofRow := fun (key, ()) =>
    ⟨key⟩

/-- The time in which messages failed that are to be sent again. -/
structure RecoverIn where
  since : Instant
  upTo : Option Instant
deriving BEq

instance : Record RecoverIn where
  title := "RecoverIn"
  types := [Instant, Option Instant]
  fields :=
    .cons (.required "since") <|
    .cons (.optional "until") <|
    .nil
  toRow r := (r.since, r.upTo, ())
  ofRow := fun (since, upTo, ()) =>
    ⟨since, upTo⟩

/-- The time of messages that an endpoint never got and that are to be sent to it. -/
structure ReplayIn where
  since : Instant
  upTo : Option Instant
deriving BEq

instance : Record ReplayIn where
  title := "ReplayIn"
  types := [Instant, Option Instant]
  fields :=
    .cons (.required "since") <|
    .cons (.optional "until") <|
    .nil
  toRow r := (r.since, r.upTo, ())
  ofRow := fun (since, upTo, ()) =>
    ⟨since, upTo⟩

/-- The headers to add to messages to an endpoint. -/
structure EndpointHeadersIn where
  headers : Dict String
deriving BEq, Inhabited

instance : Record EndpointHeadersIn where
  title := "EndpointHeadersIn"
  types := [Dict String]
  fields :=
    .cons (.required "headers") <|
    .nil
  toRow r := (r.headers, ())
  ofRow := fun (headers, ()) =>
    ⟨headers⟩

/-- The headers added to messages to an endpoint. -/
structure EndpointHeadersOut where
  headers : Dict String
  /-- The names of headers with hidden values. -/
  sensitive : List String
deriving BEq

instance : Record EndpointHeadersOut where
  title := "EndpointHeadersOut"
  types := [Dict String, List String]
  fields :=
    .cons (.required "headers") <|
    .cons (.required "sensitive") <|
    .nil
  toRow r := (r.headers, r.sensitive, ())
  ofRow := fun (headers, sensitive, ()) =>
    ⟨headers, sensitive⟩

/-- An example message to send to an endpoint. -/
structure EventExampleIn where
  eventType : String
  /-- Which of the examples of the event type. -/
  exampleIndex : Option (Bounded .i64)
deriving BEq

instance : Record EventExampleIn where
  title := "EventExampleIn"
  types := [String, Option (Bounded .i64)]
  fields :=
    .cons (.required "eventType") <|
    .cons (.optional "exampleIndex") <|
    .nil
  toRow r := (r.eventType, r.exampleIndex, ())
  ofRow := fun (eventType, exampleIndex, ()) =>
    ⟨eventType, exampleIndex⟩

end WebhookClient
