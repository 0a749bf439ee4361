import WebhookClient.Url.Percent

/-!
# Form-encoded queries

A query is a list of pairs, `name=value` joined by `&`. Letters, digits and `* - . _` stand for
themselves, a space is written `+`, and any other byte is percent-encoded. `parse` gives back the
pairs of a query.
-/

set_option autoImplicit false

namespace WebhookClient.Url.Form

/-- The bytes that stand for themselves. -/
def isPlain (b : UInt8) : Bool :=
  let c := Char.ofNat b.toNat
  b < 0x80 && (c.isAlphanum || c = '*' || c = '-' || c = '.' || c = '_')

/-- A byte of a name or a value. -/
def encodeByte (b : UInt8) : List Char :=
  if isPlain b then [Char.ofNat b.toNat]
  else if b = 0x20 then ['+']
  else Percent.encodeByte b

/-- A name or a value. -/
def encode (s : String) : List Char := (Utf8.encode s.toList).flatMap encodeByte

/-- A pair. -/
def encodePair (p : String × String) : List Char := encode p.1 ++ '=' :: encode p.2

/-- Appends pairs to the text of a query; an `&` stands before each pair but the first of an
empty query. -/
def append (query : List Char) : List (String × String) → List Char
  | [] => query
  | p :: ps =>
    append ((if query.isEmpty then [] else query ++ ['&']) ++ encodePair p) ps

/-! ## Parsing -/

/-- The text of an encoded name or value. -/
def decode (cs : List Char) : String :=
  String.ofList (Utf8.decode (Percent.decode (cs.map fun c => if c = '+' then ' ' else c)))

/-- A pair: the name ends at the first `=`. -/
def decodePair (cs : List Char) : String × String :=
  (decode (cs.takeWhile (· ≠ '=')), decode ((cs.dropWhile (· ≠ '=')).drop 1))

/-- The pairs of a query; empty ones do not count. -/
def parse (query : List Char) : List (String × String) :=
  ((query.splitOn '&').filter (· ≠ [])).map decodePair

end WebhookClient.Url.Form
