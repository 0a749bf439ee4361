import WebhookClient.Call.Trace
import WebhookClient.Text.Characters

/-!
# Calls

A call turns a request into what can be sent, makes a run of it, and reads the answer. If the
request cannot be sent nothing is. A response of success is read as a value of the type that is
asked for, a blank body standing for `null`; any other response is a refusal.
-/

set_option autoImplicit false

namespace WebhookClient

open Request

/-! ## Reading the answer -/

/-- The text that is read for a body: a blank one stands for `null`. -/
def answerText (body : String) : String := if Text.allBlank body.toList then "null" else body

/-- Whether a status is one of success. -/
def isSuccess (status : Nat) : Bool := 200 ≤ status && status < 300

/-- Reads a response as a value of a type. -/
def readResponse {α : Type} [Json.Wire α] (status : Nat) (body : String) : Except Failure α :=
  if isSuccess status then
    (Json.decode (answerText body)).mapError fun e => .undecodable e status body
  else .error (.refused (.ofResponse status body))

/-- What is said of an instant beyond the range of the clock. -/
def overflowText : String := "overflow when adding duration to instant"

/-- Reads the outcome of a run that began at `start`. -/
def readRun {α : Type} [Json.Wire α] (start : Nat) (r : Run) : Except Failure α :=
  match r.ending with
  | .settled (.failed e) => .error (.transport e)
  | .settled (.received status body) => readResponse status body
  | .cutOff => .error (.deadlineExceeded (r.finishedAt - start))
  | .overflow => .error (.panicked overflowText)

/-! ## Calls -/

/-- The circumstances of a call. All times are in milliseconds. -/
structure Circumstances where
  /-- What becomes of the request, by the number of the attempt. -/
  reply : Nat → Reply
  startedAt : Nat
  deadline : Option Nat
  /-- The number of the call. -/
  requestId : Nat

/-- A call that has been made. -/
structure Call (α : Type) where
  attempts : List Attempt
  result : Except Failure α
  span : Span
  events : List Event
  finishedAt : Nat

/-- A call returns unless it ends in a panic. -/
def Call.Returns {α : Type} (k : Call α) : Prop := ∀ reason, k.result ≠ .error (.panicked reason)

namespace Client

/-- What the attempts of a call depend on. -/
def plan (c : Client) (p : Prepared) (s : Circumstances) : Run.Plan where
  sent := Sent.ofAttempt c p s.requestId
  reply := s.reply
  timeout := c.timeout
  deadline := s.deadline

/-- The run of a call. -/
def run (c : Client) (p : Prepared) (s : Circumstances) : Run :=
  Run.proceed (c.plan p s) c.retrySchedule 0 s.startedAt

/-- The status of the response that a run ends with. -/
def finalStatus? (r : Run) : Option Nat :=
  match r.outcome with
  | some (.received status _) => some status
  | _ => none

/-- Makes a call and reads its answer as a value of a type. -/
def call {α : Type} [Json.Wire α] (c : Client) (request : Request) (s : Circumstances) :
    Call α :=
  match request.prepare c.baseUrl with
  | .error e => ⟨[], .error e, .opened request.method, [], s.startedAt⟩
  | .ok p =>
    let r := c.run p s
    { attempts := r.attempts
      result := readRun s.startedAt r
      span :=
        { method := request.method
          url := some p.url.toText
          requestId := some s.requestId
          statusCode := finalStatus? r
          status := (finalStatus? r).map .ofStatus }
      events :=
        Event.before c.debug p.body ++ r.retries.map .ofRetry ++ Event.after c.debug r.outcome
      finishedAt := r.finishedAt }

end Client

end WebhookClient
