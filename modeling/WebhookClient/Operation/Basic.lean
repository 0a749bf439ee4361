import WebhookClient.Records.Catalog
import WebhookClient.Request.Basic

/-!
# Operations

An operation of the service is described by data: its method, its path, the options that it
takes, the type of its payload and that of its answer. From the description and the arguments of
a use of it, `Operation.request` makes the request; so every operation sends its arguments in the
same way.
-/

set_option autoImplicit false

namespace WebhookClient

open Json

/-! ## Options -/

/-- The kinds of options. -/
inductive OptionKind where
  | text
  | count
  | flag
  | order
  | time
  | status
  | statusClass
  /-- A list of texts, each sent in a pair of its own. -/
  | texts
  /-- A text that an operation takes but does not send. -/
  | unsent
deriving DecidableEq, Repr

namespace OptionKind

/-- The values of a kind of options. -/
@[reducible] def Value : OptionKind → Type
  | .text | .unsent => Option String
  | .count => Option (Bounded .u64)
  | .flag => Option Bool
  | .order => Option SortOrder
  | .time => Option Instant
  | .status => Option MessageStatus
  | .statusClass => Option StatusCodeClass
  | .texts => Option (List String)

/-- The value of an option that is not set. -/
def unset : (k : OptionKind) → k.Value
  | .text | .count | .flag | .order | .time | .status | .statusClass | .texts | .unsent => none

/-- What an option puts into the query. -/
def queryValues : (k : OptionKind) → k.Value → List QueryValue
  | .text, v => (v.map .text).toList
  | .count, v => (v.map fun n => .int n.value).toList
  | .flag, v => (v.map .flag).toList
  | .order, v => (v.map .order).toList
  | .time, v => (v.map .time).toList
  | .status, v => (v.map .status).toList
  | .statusClass, v => (v.map .statusClass).toList
  | .texts, v => (v.getD []).map .text
  | .unsent, _ => []

/-- Puts a text in place of the value of a text. -/
def replaceText (new : Option String) : (k : OptionKind) → k.Value → k.Value
  | .text, _ => new
  | _, v => v

end OptionKind

/-- An option: its name in the query, and its kind. -/
structure QueryOption where
  name : String
  kind : OptionKind
deriving DecidableEq, Repr

/-- A value for each option of a list. -/
@[reducible] def Choices : List QueryOption → Type
  | [] => Unit
  | o :: os => o.kind.Value × Choices os

namespace Choices

/-- No option is set. -/
def unset : (os : List QueryOption) → Choices os
  | [] => ()
  | o :: os => (o.kind.unset, unset os)

/-- The pairs that options put into the query, in order. -/
def pairs : (os : List QueryOption) → Choices os → List (String × QueryValue)
  | [], () => []
  | o :: os, (v, vs) => (o.kind.queryValues v).map (o.name, ·) ++ pairs os vs

/-- Sets the text option of a name. -/
def setText (name : String) (new : Option String) :
    (os : List QueryOption) → Choices os → Choices os
  | [], () => ()
  | o :: os, (v, vs) =>
    (if o.name = name then o.kind.replaceText new v else v, setText name new os vs)

end Choices

/-- The options of operations that answer page by page. -/
def paging : List QueryOption := [⟨"limit", .count⟩, ⟨"iterator", .text⟩]

/-- The options of operations that answer page by page in a given order. -/
def orderedPaging : List QueryOption := paging ++ [⟨"order", .order⟩]

/-! ## Paths -/

/-- A segment of the path of an operation. -/
inductive PathPart where
  | fixed (s : String)
  /-- The identifier of a thing, under its name. -/
  | id (name : String)
deriving DecidableEq, Repr

/-- A segment as it stands in a path template. -/
def PathPart.text : PathPart → String
  | .fixed s => s
  | .id n => "\x7b" ++ n ++ "\x7d"

/-- A path of the service, all of which begin alike. -/
def servicePath (parts : List PathPart) : List PathPart := .fixed "api" :: .fixed "v1" :: parts

/-! ## Operations -/

/-- The answer of an operation: one value, or a page of a list. -/
inductive Answer where
  | one (t : WireType)
  | page (item : WireType)

/-- The type of the items of a list. -/
def Answer.item? : Answer → Option WireType
  | .one _ => none
  | .page t => some t

/-- An operation of the service. -/
structure Operation where
  /-- The resource and what is done to it, with a dot between. -/
  name : String
  method : Method
  path : List PathPart
  /-- What the query always begins with. -/
  fixedQuery : List (String × QueryValue) := []
  options : List QueryOption := []
  payload : Option WireType := none
  answer : Answer

namespace Operation

/-- The template of the path. -/
def template (op : Operation) : String := String.join (op.path.map fun p => "/" ++ p.text)

/-- The names of the identifiers, in the order of the path. -/
def ids (op : Operation) : List String :=
  op.path.filterMap fun
    | .id n => some n
    | .fixed _ => none

/-- The values of an optional type. -/
@[reducible] def Payload : Option WireType → Type
  | none => Unit
  | some t => t.carrier

/-- The text of a payload, if there is one. -/
def payloadText : (t : Option WireType) → Payload t → Option String
  | none, () => none
  | some t, v =>
    let _ := t.wire
    some (encode (α := t.carrier) v)

/-- What an operation is used with. -/
structure Arguments (op : Operation) where
  ids : List String
  options : Choices op.options
  payload : Payload op.payload
  idempotencyKey : Option String
  length_ids : ids.length = op.ids.length

/-- The arguments that ask for the page of an iterator. -/
def Arguments.withIterator {op : Operation} (iterator : Option String) (args : Arguments op) :
    Arguments op :=
  { args with options := Choices.setText "iterator" iterator op.options args.options }

/-- The request of a use of an operation. -/
def request (op : Operation) (args : Arguments op) : Request :=
  -- The path is filled in first, then the query, the key and the body are added.
  let named := (op.ids.zip args.ids).foldl (fun r p => r.withPathParam p.1 p.2)
    (Request.new op.method op.template)
  let asked := (named.withQuery (op.fixedQuery ++ Choices.pairs op.options args.options))
    |>.withIdempotencyKey args.idempotencyKey
  match payloadText op.payload args.payload with
  | some text => asked.withBodyText (.ok text)
  | none => asked

end Operation

end WebhookClient
