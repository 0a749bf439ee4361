import WebhookClient.Json.Record

/-!
# Message records

A message has an event type and a payload of any shape.
-/

set_option autoImplicit false

namespace WebhookClient

open Json

/-- A message to send. -/
structure MessageIn where
  /-- An identifier chosen by the caller, by which repeated messages are recognised. -/
  eventId : Option String
  eventType : String
  payload : Json
  channels : Option (List String)
  /-- The days for which the payload is kept. -/
  payloadRetentionPeriod : Option (Bounded .i64)
  tags : Option (List String)
deriving BEq

instance : Record MessageIn where
  title := "MessageIn"
  types := [Option String, String, Json, Option (List String), Option (Bounded .i64), Option (List
    String)]
  fields :=
    .cons (.optional "eventId") <|
    .cons (.required "eventType") <|
    .cons (.required "payload") <|
    .cons (.optional "channels") <|
    .cons (.optional "payloadRetentionPeriod") <|
    .cons (.optional "tags") <|
    .nil
  toRow r := (r.eventId, r.eventType, r.payload, r.channels, r.payloadRetentionPeriod, r.tags, ())
  ofRow := fun (eventId, eventType, payload, channels, payloadRetentionPeriod, tags, ()) =>
    ⟨eventId, eventType, payload, channels, payloadRetentionPeriod, tags⟩

/-- A message with an event type, a payload and nothing else. -/
def MessageIn.new (eventType : String) (payload : Json) : MessageIn :=
  ⟨none, eventType, payload, none, none, none⟩

/-- A message of the service. -/
structure MessageOut where
  id : String
  eventId : Option String
  eventType : String
  payload : Json
  channels : Option (List String)
  tags : Option (List String)
  timestamp : Instant
deriving BEq

instance : Record MessageOut where
  title := "MessageOut"
  types := [String, Option String, String, Json, Option (List String), Option (List String),
    Instant]
  fields :=
    .cons (.required "id") <|
    .cons (.optional "eventId") <|
    .cons (.required "eventType") <|
    .cons (.required "payload") <|
    .cons (.optional "channels") <|
    .cons (.optional "tags") <|
    .cons (.required "timestamp") <|
    .nil
  toRow r := (r.id, r.eventId, r.eventType, r.payload, r.channels, r.tags, r.timestamp, ())
  ofRow := fun (id, eventId, eventType, payload, channels, tags, timestamp, ()) =>
    ⟨id, eventId, eventType, payload, channels, tags, timestamp⟩

end WebhookClient
