import WebhookClient.Call.Reply
import WebhookClient.Client.Basic
import WebhookClient.Request.Basic

/-!
# Runs

A run makes attempts to send a request until one has an outcome that is not retryable, the
schedule of retries is used up, or the deadline comes too near. Between two attempts it pauses as
the schedule says. A pause that would last to the deadline is not begun, and the run then ends
with the outcome it has; an attempt that is under way at the deadline is cut off, and the run ends
without an outcome. Whether a pause would last to the deadline is told from the instant at which it
would end, and a run that has no such instant, because it lies beyond the range of the clock, ends
in a panic.

The replies are given as a function from the number of an attempt, counted from zero. Instants are
milliseconds of a clock whose seconds are a number of 64 bits with a sign.
-/

set_option autoImplicit false

namespace WebhookClient

open Request

namespace Sent

def requestIdName : HeaderName := ⟨"svix-req-id", by decide⟩

def retryCountName : HeaderName := ⟨"svix-retry-count", by decide⟩

def contentTypeName : HeaderName := ⟨"content-type", by decide⟩

/-- The type of all bodies. -/
def jsonType : HeaderValue := ⟨"application/json", by decide⟩

/-- The request that is sent at an attempt: the headers of the client; the number of the call and,
from the second attempt on, that of the retry, after them; the headers of the call in their place;
the type of the body, if there is one, after these. -/
def ofAttempt (c : Client) (p : Prepared) (requestId retry : Nat) : Sent :=
  let numbered := c.headers.add requestIdName (number requestId)
  let counted := if retry = 0 then numbered else numbered.add retryCountName (number retry)
  let own := counted.setAll p.headers
  { method := p.method
    url := p.url
    headers := if p.body.isSome then own.add contentTypeName jsonType else own
    body := p.body }

end Sent

/-- A retry: its number counted from one, the pause before it, and the outcome before that. -/
structure Retry where
  number : Nat
  pause : Nat
  outcome : Outcome
deriving DecidableEq, Repr

/-- An attempt that has been made. -/
structure Attempt where
  sent : Sent
  startedAt : Nat
  /-- Whether the request reached the server. -/
  received : Bool
  /-- The outcome, unless the attempt was cut off. -/
  outcome : Option Outcome
deriving DecidableEq

/-- How a run ends. -/
inductive Ending where
  /-- With the outcome of its last attempt. -/
  | settled (o : Outcome)
  /-- Its last attempt is cut off at the deadline. -/
  | cutOff
  /-- There is no instant at which the pause after its last attempt would end. -/
  | overflow
deriving DecidableEq, Repr

/-- The course of a run. -/
structure Run where
  attempts : List Attempt
  retries : List Retry
  ending : Ending
  finishedAt : Nat
deriving DecidableEq

namespace Run

/-- The outcome that a run ends with, if it ends with one. -/
def outcome (r : Run) : Option Outcome :=
  match r.ending with
  | .settled o => some o
  | .cutOff | .overflow => none

/-- What the attempts of a run depend on. -/
structure Plan where
  /-- The request that is sent, by the number of the attempt. -/
  sent : Nat → Sent
  /-- What becomes of it. -/
  reply : Nat → Reply
  timeout : Nat
  deadline : Option Nat

/-- Whether an attempt that begins at `start` is cut off: it would end after the deadline, or has
not begun before it. What is there immediately is never cut off. -/
def isCutOff (deadline : Option Nat) (start : Nat) (settled : Settled) : Bool :=
  match deadline with
  | some d => !settled.outcome.isImmediate && (d < start + settled.duration || d ≤ start)
  | none => false

/-- The last instant of the clock, whose seconds are a number of 63 bits. -/
def lastInstant : Nat := Nat.pow 2 63 * 1000 - 1

/-- What comes of a pause. -/
inductive Pausing where
  | begun
  /-- It would last to the deadline. -/
  | tooLong
  /-- It would last beyond the last instant. -/
  | overflow
deriving DecidableEq, Repr

/-- What comes of a pause that would last to `stop`. Without a deadline nothing is asked. -/
def pausing (deadline : Option Nat) (stop : Nat) : Pausing :=
  match deadline with
  | some d => if lastInstant < stop then .overflow else if d ≤ stop then .tooLong else .begun
  | none => .begun

/-- What the attempt of a number comes to. -/
def Plan.settle (p : Plan) (retry : Nat) : Settled :=
  (p.reply retry).settle p.timeout (p.sent retry).url

/-- Makes attempts from the one numbered `retry` on, the first of them at `now`; the pauses of the
list remain. -/
def proceed (p : Plan) (pauses : List Nat) (retry now : Nat) : Run :=
  let settled := p.settle retry
  let stop := now + settled.duration
  if isCutOff p.deadline now settled then
    -- An attempt that has not begun before the deadline does not reach the server.
    let cut := max now (p.deadline.getD now)
    ⟨[⟨p.sent retry, now, settled.received && now < cut, none⟩], [], .cutOff, cut⟩
  else
    let attempt : Attempt := ⟨p.sent retry, now, settled.received, some settled.outcome⟩
    match pauses with
    | [] => ⟨[attempt], [], .settled settled.outcome, stop⟩
    | pause :: rest =>
      if settled.outcome.isRetryable then
        -- A pause is begun only if another attempt can begin after it.
        match pausing p.deadline (stop + pause) with
        | .begun =>
          let later := proceed p rest (retry + 1) (stop + pause)
          { later with
            attempts := attempt :: later.attempts
            retries := ⟨retry + 1, pause, settled.outcome⟩ :: later.retries }
        | .tooLong => ⟨[attempt], [], .settled settled.outcome, stop⟩
        | .overflow => ⟨[attempt], [], .overflow, stop⟩
      else ⟨[attempt], [], .settled settled.outcome, stop⟩

end Run

end WebhookClient
