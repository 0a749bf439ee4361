import WebhookClient.Call.Run

/-!
# Traces

What a call leaves behind for those who watch it: one span with the fields that became known, and
events. Bodies are traced only where the client is told so; the token never is.
-/

set_option autoImplicit false

namespace WebhookClient

/-- How a call went, in the words of traces. -/
inductive SpanStatus where
  | ok
  | unset
  | error
deriving DecidableEq, Repr

/-- The word for how a call went. -/
def SpanStatus.text : SpanStatus → String
  | .ok => "OK"
  | .unset => "UNSET"
  | .error => "ERROR"

/-- How a call went by the status of its response: failures of the service itself are errors. -/
def SpanStatus.ofStatus (status : Nat) : SpanStatus :=
  if 200 ≤ status ∧ status < 300 then .ok else if 500 ≤ status then .error else .unset

/-- The span of a call. -/
structure Span where
  method : Method
  url : Option String
  requestId : Option Nat
  statusCode : Option Nat
  status : Option SpanStatus
deriving DecidableEq, Repr

/-- The span of a call that came to nothing before anything was sent. -/
def Span.opened (m : Method) : Span := ⟨m, none, none, none, none⟩

/-- An event in a trace. -/
inductive Event where
  | requestBody (body : String)
  | retrying (number pause : Nat) (outcome : String)
  | responseBody (status : Nat) (body : String)
deriving DecidableEq, Repr

/-- How much an event matters. -/
inductive Level where
  | debug
  | warning
deriving DecidableEq, Repr

namespace Event

def level : Event → Level
  | .retrying .. => .warning
  | _ => .debug

/-- The wording of an event. -/
def message : Event → String
  | .requestBody _ => "Request body"
  | .retrying .. => "Retrying request"
  | .responseBody .. => "Response body"

/-- The event of a retry. -/
def ofRetry (r : Retry) : Event := .retrying r.number r.pause r.outcome.text

/-- The events before the first attempt. -/
def before (debug : Bool) (body : Option String) : List Event :=
  if debug then (body.map .requestBody).toList else []

/-- The events after the last attempt. -/
def after (debug : Bool) : Option Outcome → List Event
  | some (.received status body) => if debug then [.responseBody status body] else []
  | _ => []

end Event

end WebhookClient
