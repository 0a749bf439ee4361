import WebhookClient.Text.Utf8

/-!
# Percent encoding

A component of a URL is written in printable ASCII: characters outside it, and those of a set
that depends on the component, are written as their UTF-8 bytes, each as `%` and two hexadecimal
digits. `decode` undoes it once.
-/

set_option autoImplicit false

namespace WebhookClient.Url.Percent

/-- The upper-case hexadecimal digit of a number below 16. -/
def hexDigit (n : Nat) : Char := (Nat.digitChar n).toUpper

/-- A byte as `%` and two digits. -/
def encodeByte (b : UInt8) : List Char :=
  ['%', hexDigit (b.toNat / 16), hexDigit (b.toNat % 16)]

/-! ## The sets of characters to encode -/

/-- Controls and everything outside ASCII. -/
def control (c : Char) : Bool := c.toNat < 0x20 || 0x7F ≤ c.toNat

/-- What is encoded in a fragment. -/
def fragmentSet (c : Char) : Bool :=
  control c || c = ' ' || c = '"' || c = '<' || c = '>' || c = '\x60'

/-- What is encoded in a path. -/
def pathSet (c : Char) : Bool :=
  fragmentSet c || c = '#' || c = '?' || c = '\x7b' || c = '\x7d'

/-- What is encoded in a user name or a password. -/
def userSet (c : Char) : Bool :=
  pathSet c || c = '/' || c = ':' || c = ';' || c = '=' || c = '@' || c = '[' || c = '\\' ||
    c = ']' || c = '^' || c = '|'

/-- What is encoded in a single path segment. -/
def segmentSet (c : Char) : Bool := pathSet c || c = '/' || c = '%'

/-- What is encoded in a single path segment where a backslash separates segments too. -/
def specialSegmentSet (c : Char) : Bool := segmentSet c || c = '\\'

/-- What is encoded in a query. -/
def querySet (c : Char) : Bool :=
  control c || c = ' ' || c = '"' || c = '#' || c = '<' || c = '>'

/-- What is encoded in a query of the schemes of the web. -/
def specialQuerySet (c : Char) : Bool := querySet c || c = '\x27'

/-! ## Encoding and decoding -/

/-- A character, encoded if it is in the set. -/
def encodeChar (set : Char → Bool) (c : Char) : List Char :=
  if set c then (Utf8.encodeChar c).flatMap encodeByte else [c]

/-- A text, its characters encoded one by one. -/
def encode (set : Char → Bool) (cs : List Char) : List Char := cs.flatMap (encodeChar set)

/-- The value of a hexadecimal digit. -/
def hexValue? (c : Char) : Option Nat :=
  if c.isDigit then some (c.toNat - '0'.toNat)
  else if 'a' ≤ c ∧ c ≤ 'f' then some (c.toNat - 'a'.toNat + 10)
  else if 'A' ≤ c ∧ c ≤ 'F' then some (c.toNat - 'A'.toNat + 10)
  else none

/-- The byte of two hexadecimal digits. -/
def byte? (a b : Char) : Option UInt8 := do
  some (UInt8.ofNat ((← hexValue? a) * 16 + (← hexValue? b)))

/-- The bytes of a text in which `%` and two digits stand for a byte. -/
def decode : List Char → List UInt8
  | '%' :: a :: b :: cs =>
    match byte? a b with
    | some x => x :: decode cs
    | none => Utf8.encodeChar '%' ++ decode (a :: b :: cs)
  | c :: cs => Utf8.encodeChar c ++ decode cs
  | [] => []

end WebhookClient.Url.Percent
