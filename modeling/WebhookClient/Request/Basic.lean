import WebhookClient.Header
import WebhookClient.Instant.Text
import WebhookClient.Method
import WebhookClient.Records.Attempt
import WebhookClient.Records.Page
import WebhookClient.Request.Template
import WebhookClient.Url.Basic

/-!
# Requests

A request names what is asked of the service: a method, a path template with values, a query,
headers and a body. It is put together step by step, and `prepare` turns it into what can be
sent: the path is looked at first, then the headers, then the body.
-/

set_option autoImplicit false

namespace WebhookClient

open Json

/-- A value in a query. -/
inductive QueryValue where
  | text (s : String)
  | flag (b : Bool)
  | int (i : Int)
  | order (o : SortOrder)
  | time (t : Instant)
  | status (s : MessageStatus)
  | statusClass (c : StatusCodeClass)

/-- The text of a value: states and classes by their codes, the rest by name or number. -/
def QueryValue.toText : QueryValue → String
  | .text s => s
  | .flag b => if b then "true" else "false"
  | .int i => Decimal.intText i
  | .order o => Named.name o
  | .time t => t.toText
  | .status s => Decimal.intText (Coded.code s).value
  | .statusClass c => Decimal.intText (Coded.code c).value

/-- What is asked of the service. -/
structure Request where
  method : Method
  template : String
  pathParams : Template.Values
  query : List (String × String)
  /-- Headers under their names as they were given. -/
  headerParams : Dict String
  /-- The text of the body, or why it cannot be written. -/
  body : Option (Except Json.ReadError String)

namespace Request

/-- A request without parameters and body. -/
def new (method : Method) (template : String) : Request :=
  ⟨method, template, .empty, [], .empty, none⟩

/-! ## Putting a request together -/

/-- Sets the value of a group of the path. -/
def withPathParam (name value : String) (r : Request) : Request :=
  { r with pathParams := r.pathParams.insert name value }

/-- Adds pairs to the query. -/
def withQuery (pairs : List (String × QueryValue)) (r : Request) : Request :=
  { r with query := r.query ++ pairs.map fun p => (p.1, p.2.toText) }

/-- Adds a pair to the query, if there is a value. -/
def withOptionalQuery (name : String) (value : Option QueryValue) (r : Request) : Request :=
  r.withQuery (value.toList.map (name, ·))

/-- Adds a pair to the query for each value of a list. -/
def withQueryList (name : String) (values : Option (List QueryValue)) (r : Request) : Request :=
  r.withQuery ((values.getD []).map (name, ·))

/-- Sets a header, if there is a value. A later value takes the place of an earlier one of the
same spelling. -/
def withHeader (name : String) (value : Option String) (r : Request) : Request :=
  match value with
  | some v => { r with headerParams := r.headerParams.insert name v }
  | none => r

/-- The header that carries a key by which repeated requests are told apart. -/
def idempotencyKeyName : String := "idempotency-key"

/-- Sets the key by which repeated requests are told apart, if the method has one. -/
def withIdempotencyKey (key : Option String) (r : Request) : Request :=
  if r.method.acceptsIdempotencyKey then r.withHeader idempotencyKeyName key else r

/-- Sets the body to a text, or to the failure of writing one. -/
def withBodyText (body : Except Json.ReadError String) (r : Request) : Request :=
  { r with body := some body }

/-- Sets the body to a value. -/
def withBody {α : Type} [Json.Wire α] (v : α) (r : Request) : Request :=
  r.withBodyText (.ok (Json.encode v))

/-! ## What is sent -/

/-- Reads a header of a request. -/
def readHeader (name value : String) : Except Failure (HeaderName × HeaderValue) := do
  let n ← (HeaderName.ofText name).mapError fun e => .invalidHeader name e.message
  let v ← (HeaderValue.ofText value).mapError fun e => .invalidHeader name e.message
  .ok (n, v)

/-- The headers of a request. They are read in the order of their names as they were given; of
names that differ in case only, the last one counts. -/
def headers (r : Request) : Except Failure Headers := do
  let lines ← r.headerParams.entries.mapM fun e => readHeader e.1 e.2
  .ok (Headers.empty.setAll ⟨lines⟩)

/-- The URL of a request to a server: the path of the server, the filled template, and the query
of the server followed by that of the request. -/
def url (base : Url) (r : Request) : Except Failure Url := do
  let segments ← Template.expand r.template r.pathParams
  match base.appendSegments? segments with
  | none => .error (.config (.unsupportedScheme base.schemeText))
  | some u => .ok (u.appendQuery r.query)

/-- A request that can be sent. -/
structure Prepared where
  method : Method
  url : Url
  headers : Headers
  body : Option String
deriving DecidableEq

/-- The body of a request, if it could be written. -/
def bodyText (r : Request) : Except Failure (Option String) :=
  match r.body with
  | none => .ok none
  | some (.ok text) => .ok (some text)
  | some (.error e) => .error (.unencodable e)

/-- Turns a request into what can be sent to a server. -/
def prepare (base : Url) (r : Request) : Except Failure Prepared := do
  let url ← r.url base
  let headers ← r.headers
  let body ← r.bodyText
  .ok ⟨r.method, url, headers, body⟩

end Request

end WebhookClient
