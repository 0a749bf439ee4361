import WebhookClient.Json.Flattened
import WebhookClient.Records.Message
import WebhookClient.Json.Enumeration

/-!
# Attempt records

The service attempts to deliver each message to each endpoint that wants it. States of delivery
are given by code; a code that is not declared is not read.
-/

set_option autoImplicit false

namespace WebhookClient

open Json

/-! ## States of delivery -/

/-- The state of delivery of a message to an endpoint. -/
inductive MessageStatus where
  | success
  | pending
  | fail
  | sending
deriving DecidableEq, Repr

instance : Coded MessageStatus where
  title := "MessageStatus"
  all := [.success, .pending, .fail, .sending]
  code
    | .success => ⟨0, by decide⟩
    | .pending => ⟨1, by decide⟩
    | .fail => ⟨2, by decide⟩
    | .sending => ⟨3, by decide⟩
  mem_all a := by cases a <;> simp
  code_injective a b := by cases a <;> cases b <;> simp

/-- The word for a state. -/
def MessageStatus.text : MessageStatus → String
  | .success => "success"
  | .pending => "pending"
  | .fail => "fail"
  | .sending => "sending"

/-- The class of the status that an endpoint answered with. -/
inductive StatusCodeClass where
  /-- There was no answer. -/
  | codeNone
  | code1xx
  | code2xx
  | code3xx
  | code4xx
  | code5xx
deriving DecidableEq, Repr

instance : Coded StatusCodeClass where
  title := "StatusCodeClass"
  all := [.codeNone, .code1xx, .code2xx, .code3xx, .code4xx, .code5xx]
  code
    | .codeNone => ⟨0, by decide⟩
    | .code1xx => ⟨100, by decide⟩
    | .code2xx => ⟨200, by decide⟩
    | .code3xx => ⟨300, by decide⟩
    | .code4xx => ⟨400, by decide⟩
    | .code5xx => ⟨500, by decide⟩
  mem_all a := by cases a <;> simp
  code_injective a b := by cases a <;> cases b <;> simp

/-- The word for a class. -/
def StatusCodeClass.text : StatusCodeClass → String
  | .codeNone => "CodeNone"
  | .code1xx => "Code1xx"
  | .code2xx => "Code2xx"
  | .code3xx => "Code3xx"
  | .code4xx => "Code4xx"
  | .code5xx => "Code5xx"

/-- What an attempt was made for. -/
inductive TriggerType where
  | scheduled
  | manual
deriving DecidableEq, Repr

instance : Coded TriggerType where
  title := "MessageAttemptTriggerType"
  all := [.scheduled, .manual]
  code
    | .scheduled => ⟨0, by decide⟩
    | .manual => ⟨1, by decide⟩
  mem_all a := by cases a <;> simp
  code_injective a b := by cases a <;> cases b <;> simp

/-- The word for a trigger. -/
def TriggerType.text : TriggerType → String
  | .scheduled => "scheduled"
  | .manual => "manual"

/-! ## Records -/

/-- One attempt to deliver a message. -/
structure MessageAttemptOut where
  id : String
  msgId : String
  endpointId : String
  url : String
  response : String
  responseStatusCode : Bounded .i16
  responseDurationMs : Bounded .i64
  status : MessageStatus
  triggerType : TriggerType
  timestamp : Instant
  /-- The message, where it was asked for. -/
  msg : Option MessageOut
deriving BEq

instance : Record MessageAttemptOut where
  title := "MessageAttemptOut"
  types := [String, String, String, String, String, Bounded .i16, Bounded .i64, MessageStatus,
    TriggerType, Instant, Option MessageOut]
  fields :=
    .cons (.required "id") <|
    .cons (.required "msgId") <|
    .cons (.required "endpointId") <|
    .cons (.required "url") <|
    .cons (.required "response") <|
    .cons (.required "responseStatusCode") <|
    .cons (.required "responseDurationMs") <|
    .cons (.required "status") <|
    .cons (.required "triggerType") <|
    .cons (.required "timestamp") <|
    .cons (.optional "msg") <|
    .nil
  toRow r := (r.id, r.msgId, r.endpointId, r.url, r.response, r.responseStatusCode,
    r.responseDurationMs, r.status, r.triggerType, r.timestamp, r.msg, ())
  ofRow := fun (id, msgId, endpointId, url, response, responseStatusCode, responseDurationMs,
      status, triggerType, timestamp, msg, ()) =>
    ⟨id, msgId, endpointId, url, response, responseStatusCode, responseDurationMs, status,
      triggerType, timestamp, msg⟩

/-- A message and its state of delivery to one endpoint. -/
structure EndpointMessageOut where
  msg : MessageOut
  status : MessageStatus
  nextAttempt : Option Instant
deriving BEq

instance : Flattened EndpointMessageOut MessageOut where
  title := "EndpointMessageOut"
  types := [MessageStatus, Option Instant]
  fields :=
    .cons (.required "status") <|
    .cons (.optional "nextAttempt") <|
    .nil
  toParts r := (r.msg, r.status, r.nextAttempt, ())
  ofParts := fun (msg, status, nextAttempt, ()) => ⟨msg, status, nextAttempt⟩

/-- An endpoint and the state of delivery of one message to it. -/
structure MessageEndpointOut where
  id : String
  uid : Option String
  url : String
  description : String
  version : Bounded .i32
  rateLimit : Option (Bounded .u16)
  disabled : Option Bool
  filterTypes : Option (List String)
  channels : Option (List String)
  status : MessageStatus
  nextAttempt : Option Instant
  createdAt : Instant
  updatedAt : Instant
deriving BEq

instance : Record MessageEndpointOut where
  title := "MessageEndpointOut"
  types := [String, Option String, String, String, Bounded .i32, Option (Bounded .u16),
    Option Bool, Option (List String), Option (List String), MessageStatus, Option Instant,
    Instant, Instant]
  fields :=
    .cons (.required "id") <|
    .cons (.optional "uid") <|
    .cons (.required "url") <|
    .cons (.required "description") <|
    .cons (.required "version") <|
    .cons (.optional "rateLimit") <|
    .cons (.optional "disabled") <|
    .cons (.optional "filterTypes") <|
    .cons (.optional "channels") <|
    .cons (.required "status") <|
    .cons (.optional "nextAttempt") <|
    .cons (.required "createdAt") <|
    .cons (.required "updatedAt") <|
    .nil
  toRow r := (r.id, r.uid, r.url, r.description, r.version, r.rateLimit, r.disabled,
    r.filterTypes, r.channels, r.status, r.nextAttempt, r.createdAt, r.updatedAt, ())
  ofRow := fun (id, uid, url, description, version, rateLimit, disabled, filterTypes, channels,
      status, nextAttempt, createdAt, updatedAt, ()) =>
    ⟨id, uid, url, description, version, rateLimit, disabled, filterTypes, channels, status,
      nextAttempt, createdAt, updatedAt⟩

end WebhookClient
