import WebhookClient.Url.Form
import WebhookClient.Url.Host
import WebhookClient.Url.Path

/-!
# URLs

A URL in its parsed form, its text, and the two changes made to one: appending path segments and
appending pairs to the query. Neither touches any other part.
-/

set_option autoImplicit false

namespace WebhookClient

open Url

/-- What follows the scheme and the host of a URL. -/
inductive Url.Location where
  /-- Segments, each after a slash. -/
  | segments (path : List (List Char))
  /-- A text without segments. -/
  | text (cs : List Char)
deriving DecidableEq, Repr

/-- A URL. All parts are in their percent-encoded form. -/
structure Url where
  scheme : List Char
  username : List Char
  password : List Char
  /-- The host, where an authority is written; it may be empty. -/
  host : Option Host
  /-- The port, if it is not the default one of the scheme. -/
  port : Option Nat
  location : Location
  query : Option (List Char)
  fragment : Option (List Char)
deriving DecidableEq, Repr

namespace Url

/-- Whether a scheme is one of those named. -/
def isAmong (names : List String) (scheme : List Char) : Bool :=
  names.any fun n => n.toList = scheme

/-- The kind of a scheme. -/
def schemeKind (scheme : List Char) : SchemeKind :=
  if isAmong ["http", "https", "ws", "wss", "ftp"] scheme then .web
  else if scheme = "file".toList then .file
  else .other

/-- The port that a scheme uses if none is given. -/
def defaultPort? (scheme : List Char) : Option Nat :=
  if isAmong ["http", "ws"] scheme then some 80
  else if isAmong ["https", "wss"] scheme then some 443
  else if scheme = "ftp".toList then some 21
  else none

def kind (u : Url) : SchemeKind := schemeKind u.scheme

/-- The scheme as a text. -/
def schemeText (u : Url) : String := String.ofList u.scheme

/-! ## Text -/

/-- User name and password before an `@`, if there are any. -/
def renderUser (u : Url) : List Char :=
  if u.username.isEmpty && u.password.isEmpty then []
  else u.username ++ (if u.password.isEmpty then [] else ':' :: u.password) ++ ['@']

/-- Host and port. -/
def renderHost (u : Url) (h : Host) : List Char :=
  h.render ++ (match u.port with | some p => ':' :: Decimal.digits p | none => [])

/-- The text from the path on, up to the query. Without a host, a path that starts with an empty
segment is told apart from a host by a dot. -/
def renderLocation (u : Url) : List Char :=
  match u.location, u.host with
  | .segments ([] :: s :: rest), none => '/' :: '.' :: Path.render ([] :: s :: rest)
  | .segments path, _ => Path.render path
  | .text cs, _ => cs

/-- The query after its question mark, if there is one. -/
def renderQuery (u : Url) : List Char :=
  match u.query with
  | some q => '?' :: q
  | none => []

/-- The fragment after its mark, if there is one. -/
def renderFragment (u : Url) : List Char :=
  match u.fragment with
  | some f => '#' :: f
  | none => []

/-- The characters of a URL. -/
def render (u : Url) : List Char :=
  u.scheme ++ ':' ::
    (match u.host with
      | some h => '/' :: '/' :: (u.renderUser ++ u.renderHost h)
      | none => []) ++
    u.renderLocation ++ u.renderQuery ++ u.renderFragment

/-- The text of a URL. -/
def toText (u : Url) : String := String.ofList u.render

/-- The URL without user name and password. -/
def withoutUser (u : Url) : Url := { u with username := [], password := [] }

/-- The URL as it is requested: without user name, password and fragment. -/
def requested (u : Url) : Url := { u.withoutUser with fragment := none }

/-! ## Changes -/

/-- The path of a URL, if it has segments. -/
def path? (u : Url) : Option (List (List Char)) :=
  match u.location with
  | .segments path => some path
  | .text _ => none

/-- Appends segments to the path, in place of an empty last segment; `none` if the URL has no
segments. -/
def appendSegments? (u : Url) (segments : List (List Char)) : Option Url :=
  u.path?.map fun path =>
    { u with location := .segments (Path.pushSegments u.kind (Path.popIfEmpty path) segments) }

/-- Appends pairs to the query; without pairs the query stays as it is. -/
def appendQuery (u : Url) (pairs : List (String × String)) : Url :=
  if pairs.isEmpty then u else { u with query := some (Form.append (u.query.getD []) pairs) }

end Url

end WebhookClient
