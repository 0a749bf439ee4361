import WebhookClient.Records.ServiceError
import WebhookClient.Text.Characters
import WebhookClient.Text.Decimal
import WebhookClient.Url.Host

/-!
# Failures

All that can go wrong with a client and its calls: what is wrong with the settings, what becomes of
an attempt that brings no complete response, and a response whose status is not one of success. Each
failure has a wording; those of calls also say whether another attempt may do better, and keep the
status and body of the response, where there was one.
-/

set_option autoImplicit false

namespace WebhookClient

open Json

/-! ## Configuration -/

/-- Why a client cannot be made of its settings. -/
inductive ConfigError where
  | retryScheduleTooLong (length limit : Nat)
  | invalidUrl (e : Url.ParseError)
  | unsupportedScheme (scheme : String)
  /-- A header that cannot be sent, and why. -/
  | invalidHeader (name reason : String)
  /-- A variable of the environment that is not set. -/
  | missingVariable (name : String)
deriving DecidableEq, Repr

/-- The wording of a failure. -/
def ConfigError.message : ConfigError → String
  | .retryScheduleTooLong n limit =>
    "number of retries must not exceed " ++ Decimal.text limit ++ " (got " ++ Decimal.text n ++ ")"
  | .invalidUrl e => "Invalid URL: " ++ e.message
  | .unsupportedScheme s => "Unsupported URL scheme: " ++ s
  | .invalidHeader n r => "Invalid header " ++ n ++ ": " ++ r
  | .missingVariable n => "Missing environment variable: " ++ n

/-! ## Transport

An attempt that brings no complete response fails. It may be made again unless its request cannot
be sent at all or the body of its response breaks off.
-/

/-- Why an attempt brought no complete response. -/
inductive TransportError where
  /-- The time for an attempt was up. -/
  | timeout (milliseconds : Nat)
  /-- There was no connection. -/
  | connection (reason : String)
  /-- The connection ended without a response to a request to the URL. -/
  | sending (url : String)
  /-- No request can be sent to the URL. -/
  | unsendable (url : String)
  /-- The body of the response broke off. -/
  | bodyCutShort
deriving DecidableEq, Repr

namespace TransportError

/-- What is said of a request to a URL that came to nothing. -/
def sendingText (url : String) : String := "error sending request for url (" ++ url ++ ")"

/-- The wording of a failure. -/
def message : TransportError → String
  | .timeout ms => "Request timeout after " ++ Decimal.text ms ++ "ms"
  | .connection reason => "Connection failed: " ++ reason
  | .sending url => "HTTP request failed: " ++ sendingText url
  | .unsendable url => "HTTP request failed: builder error for url (" ++ url ++ ")"
  | .bodyCutShort => "HTTP request failed: error decoding response body"

/-- Whether another attempt may do better. -/
def isRetryable : TransportError → Bool
  | .timeout _ | .connection _ | .sending _ => true
  | .unsendable _ | .bodyCutShort => false

end TransportError

/-! ## Refusals

The body of a response whose status is not one of success is read in the form that the service
documents for the status: that of rejected fields for 422, the general one otherwise. Status and
body are kept as they are, whether or not the body can be read.
-/

/-- The body of a refusal, where it has a documented form. -/
inductive Refusal.Detail where
  | general (e : ServiceError)
  | rejectedFields (v : ValidationFailure)
deriving BEq

/-- A response whose status is not one of success. -/
structure Refusal where
  status : Nat
  body : String
  detail : Option Refusal.Detail

namespace Refusal

/-- The status of responses that reject fields of the request. -/
def unprocessable : Nat := 422

/-- Reads the body of a response in the form that belongs to its status. -/
def ofResponse (status : Nat) (body : String) : Refusal where
  status := status
  body := body
  detail :=
    if status = unprocessable then
      (decode (α := ValidationFailure) body).toOption.map .rejectedFields
    else (decode (α := ServiceError) body).toOption.map .general

/-- Failures of the service itself may pass. -/
def isRetryable (r : Refusal) : Bool := 500 ≤ r.status

/-- The code that the service gives for its refusal. -/
def code? (r : Refusal) : Option String :=
  match r.detail with
  | some (.general e) => some e.code
  | _ => none

/-- A rejected field: the path to it, and what is wrong. -/
def fieldText (f : RejectedField) : String := String.intercalate "." f.loc ++ ": " ++ f.msg

/-- The wording of the body. -/
def detailText (r : Refusal) : String :=
  match r.detail with
  | some (.general e) => e.detail ++ " (" ++ e.code ++ ")"
  | some (.rejectedFields v) => String.intercalate "; " (v.detail.map fieldText)
  | none => r.body

/-- The wording of a refusal. -/
def message (r : Refusal) : String := "HTTP " ++ Decimal.text r.status ++ ": " ++ r.detailText

end Refusal

/-! ## Calls -/

/-- Why a call has no answer. -/
inductive Failure where
  | config (e : ConfigError)
  /-- A parameter of a path template without a value. -/
  | missingPathParam (param template : String)
  /-- A value that makes a segment of the path empty, `.` or `..`. -/
  | invalidPathParam (param value template : String)
  /-- A header of the call that cannot be sent, and why. -/
  | invalidHeader (name reason : String)
  | transport (e : TransportError)
  | refused (r : Refusal)
  /-- A response of success with a body of the wrong form. -/
  | undecodable (e : Json.ReadError) (status : Nat) (body : String)
  /-- A body of the request that cannot be written. -/
  | unencodable (e : Json.ReadError)
  /-- The time for the whole call was up. -/
  | deadlineExceeded (milliseconds : Nat)
  /-- Nothing is returned: the call ended in a panic. -/
  | panicked (reason : String)

namespace Failure

/-- The wording of a failure. -/
def message : Failure → String
  | .config e => e.message
  | .missingPathParam p t => "missing path parameter `" ++ p ++ "` for `" ++ t ++ "`"
  | .invalidPathParam p v t =>
    "invalid value " ++ Text.quoted v ++ " for path parameter `" ++ p ++ "` in `" ++ t ++ "`"
  | .invalidHeader n r => "invalid request header `" ++ n ++ "`: " ++ r
  | .transport e => e.message
  | .refused r => r.message
  | .undecodable e status _ =>
    "failed to decode response (HTTP " ++ Decimal.text status ++ "): " ++ e.message
  | .unencodable e => "failed to encode request body: " ++ e.message
  | .deadlineExceeded ms => "deadline exceeded after " ++ Decimal.text ms ++ "ms"
  | .panicked reason => reason

/-- Whether another attempt may do better. -/
def isRetryable : Failure → Bool
  | .transport e => e.isRetryable
  | .refused r => r.isRetryable
  | _ => false

/-- The status of the response, if there was one. -/
def status? : Failure → Option Nat
  | .refused r => some r.status
  | .undecodable _ status _ => some status
  | _ => none

/-- The body of the response, if there was one. -/
def body? : Failure → Option String
  | .refused r => some r.body
  | .undecodable _ _ body => some body
  | _ => none

/-- Whether a failure passes on one of a part: of a URL, of JSON, or of the exchange itself. -/
def hasCause : Failure → Bool
  | .config (.invalidUrl _) | .undecodable .. | .unencodable _ => true
  | .transport (.sending _) | .transport (.unsendable _) | .transport .bodyCutShort => true
  | _ => false

end Failure

end WebhookClient
