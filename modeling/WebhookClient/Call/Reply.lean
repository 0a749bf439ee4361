import WebhookClient.Failure
import WebhookClient.Text.Utf8
import WebhookClient.Url.Basic

/-!
# Replies and outcomes

A `Reply` is what becomes of a request once it is sent, and when; an `Outcome` is what an attempt
makes of it. An attempt waits for its reply no longer than its time allows.
-/

set_option autoImplicit false

namespace WebhookClient

/-! ## Replies -/

/-- What becomes of a request. All times are in milliseconds from the start of the attempt. -/
inductive Reply where
  /-- A complete response. -/
  | response (after status : Nat) (body : List UInt8)
  /-- A response whose connection ends before its body. -/
  | cutShort (after status : Nat)
  /-- The connection ends without a response. -/
  | disconnect (after : Nat)
  /-- No connection is made. -/
  | noConnection (after : Nat)
  /-- No complete response, ever, on a connection that stays. -/
  | silence
deriving DecidableEq, Repr

namespace Reply

/-- When a reply is complete, if it ever is. -/
def time? : Reply → Option Nat
  | .response t _ _ | .cutShort t _ | .disconnect t | .noConnection t => some t
  | .silence => none

/-- The statuses of responses that have no body. -/
def isBodyless (status : Nat) : Bool := status = 204 || status = 304

/-- The text of a body: its bytes read as UTF-8, with a mark for those that are not. -/
def bodyText (status : Nat) (body : List UInt8) : String :=
  if isBodyless status then "" else String.ofList (Utf8.decode body)

/-- Whether a request reaches the server. -/
def isReceived : Reply → Bool
  | .noConnection _ => false
  | _ => true

end Reply

/-! ## Outcomes -/

/-- What comes of an attempt. -/
inductive Outcome where
  | received (status : Nat) (body : String)
  | failed (e : TransportError)
deriving DecidableEq, Repr

namespace Outcome

/-- Whether another attempt may do better: after a failure of the service itself, and where the
failure of transport says so. -/
def isRetryable : Outcome → Bool
  | .received status _ => 500 ≤ status
  | .failed e => e.isRetryable

/-- Whether an outcome is there as soon as the attempt begins: nothing is waited for if no request
can be sent. -/
def isImmediate : Outcome → Bool
  | .failed (.unsendable _) => true
  | _ => false

/-- An outcome in a word. -/
def text : Outcome → String
  | .received status _ => "HTTP " ++ Decimal.text status
  | .failed e => e.message

end Outcome

/-! ## From replies to outcomes -/

/-- The greatest length of the text of a URL that requests can be sent to. -/
def maxUrlLength : Nat := 65534

/-- Whether requests can be sent to a URL: its text is not too long, and no quotation mark,
accent or brace stands in its host. -/
def Url.isSendable (u : Url) : Bool :=
  u.render.length ≤ maxUrlLength &&
    ((u.host.map Host.render).getD []).all fun c =>
      c ≠ '\x22' && c ≠ '\x60' && c ≠ '\x7b' && c ≠ '\x7d'

/-- What an attempt comes to. -/
structure Settled where
  duration : Nat
  outcome : Outcome
  /-- Whether the request reached the server. -/
  received : Bool
deriving DecidableEq, Repr

/-- The outcome of a reply to a request to an address, where it is complete in time. -/
def Reply.outcome (timeout : Nat) (address : String) : Reply → Outcome
  | .response _ status body => .received status (bodyText status body)
  | .cutShort _ _ => .failed .bodyCutShort
  | .disconnect _ => .failed (.sending address)
  | .noConnection _ => .failed (.connection (TransportError.sendingText address))
  | .silence => .failed (.timeout timeout)

/-- What an attempt to reach a URL comes to, if it may take as long as `timeout`. -/
def Reply.settle (timeout : Nat) (url : Url) (reply : Reply) : Settled :=
  let address := url.withoutUser
  if !address.isSendable then ⟨0, .failed (.unsendable address.toText), false⟩
  else
    match reply.time? with
    | some t =>
      if t < timeout then ⟨t, reply.outcome timeout address.toText, reply.isReceived⟩
      else ⟨timeout, .failed (.timeout timeout), reply.isReceived⟩
    | none => ⟨timeout, .failed (.timeout timeout), reply.isReceived⟩

end WebhookClient
