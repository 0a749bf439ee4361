import WebhookClient.Instant.Basic
import WebhookClient.Json.Number
import WebhookClient.Text.Characters

/-!
# Failures of reading JSON

A text fails to be read because it is not JSON (`SyntaxError`) or because it is JSON of the
wrong kind. `ReadError.message` is the wording and `ReadError.category` the class of a failure.
-/

set_option autoImplicit false

namespace WebhookClient.Json

/-- Why a text is not JSON. -/
inductive SyntaxError where
  | textEndsInValue
  | textEndsInString
  | textEndsInList
  | textEndsInObject
  | expectedColon
  | expectedListSeparator
  | expectedObjectSeparator
  | expectedLiteral
  | expectedValue
  | invalidEscape
  | invalidNumber
  | numberOutOfRange
  | controlCharacter
  | keyNotString
  /-- A second half of a pair without the first, or a first half that no second half follows. -/
  | loneSurrogate
  /-- The first half of a pair that no escape follows. -/
  | halfPair
  | trailingComma
  | trailingCharacters
  | tooDeep
deriving DecidableEq, Repr

/-- The class of a failure, as reported beside its wording. -/
inductive Category where
  /-- The text is not JSON. -/
  | malformed
  /-- The text is JSON, but not what was expected. -/
  | data
  /-- The text ends too early. -/
  | unfinished
deriving DecidableEq, Repr

namespace SyntaxError

def message : SyntaxError → String
  | .textEndsInValue => "EOF while parsing a value"
  | .textEndsInString => "EOF while parsing a string"
  | .textEndsInList => "EOF while parsing a list"
  | .textEndsInObject => "EOF while parsing an object"
  | .expectedColon => "expected `:`"
  | .expectedListSeparator => "expected `,` or `]`"
  | .expectedObjectSeparator => "expected `,` or `\x7d`"
  | .expectedLiteral => "expected ident"
  | .expectedValue => "expected value"
  | .invalidEscape => "invalid escape"
  | .invalidNumber => "invalid number"
  | .numberOutOfRange => "number out of range"
  | .controlCharacter => "control character (\\u0000-\\u001F) found while parsing a string"
  | .keyNotString => "key must be a string"
  | .loneSurrogate => "lone leading surrogate in hex escape"
  | .halfPair => "unexpected end of hex escape"
  | .trailingComma => "trailing comma"
  | .trailingCharacters => "trailing characters"
  | .tooDeep => "recursion limit exceeded"

def category : SyntaxError → Category
  | .textEndsInValue | .textEndsInString | .textEndsInList | .textEndsInObject => .unfinished
  | _ => .malformed

end SyntaxError

/-- What was found where something else was expected. -/
inductive Found where
  | null
  | bool (b : Bool)
  | number (n : Number)
  | string (s : String)
  | list
  | object
deriving DecidableEq, Repr

/-- The wording of what was found. -/
def Found.text : Found → String
  | .null => "null"
  | .bool b => "boolean `" ++ (if b then "true" else "false") ++ "`"
  | .number (.int i) => "integer `" ++ Decimal.intText i ++ "`"
  | .number (.float x) => "floating point `" ++ String.ofList x.toText ++ "`"
  | .string s => "string " ++ Text.quoted s
  | .list => "sequence"
  | .object => "map"

/-- Why a text is not read as a value of a type. -/
inductive ReadError where
  | malformed (e : SyntaxError)
  /-- A value of another kind. -/
  | wrongType (found : Found) (expected : String)
  /-- A value of the right kind that is not in range. -/
  | wrongValue (found : Found) (expected : String)
  /-- A list that ends before all members of a record are read from it. -/
  | wrongLength (length : Nat) (expected : String)
  | missingMember (name : String)
  | duplicateMember (name : String)
  /-- A name that is none of those allowed. -/
  | unknownName (name : String) (allowed : List String)
  /-- An integer that is none of the codes of an enumeration. -/
  | unknownCode (code : Int) (title : String)
  | notAnInstant (e : Instant.ReadError)
deriving DecidableEq, Repr

/-- The names allowed, each between backquotes: joined by `or` if there are two, and listed after
`one of` if there are more. -/
def oneOf (names : List String) : String :=
  match names.map fun n => "`" ++ n ++ "`" with
  | [a] => "expected " ++ a
  | [a, b] => "expected " ++ a ++ " or " ++ b
  | all => "expected one of " ++ String.intercalate ", " all

namespace ReadError

/-- The wording of a failure. -/
def message : ReadError → String
  | .malformed e => e.message
  | .wrongType f x => "invalid type: " ++ f.text ++ ", expected " ++ x
  | .wrongValue f x => "invalid value: " ++ f.text ++ ", expected " ++ x
  | .wrongLength n x => "invalid length " ++ Decimal.text n ++ ", expected " ++ x
  | .missingMember n => "missing field `" ++ n ++ "`"
  | .duplicateMember n => "duplicate field `" ++ n ++ "`"
  | .unknownName n all => "unknown variant `" ++ n ++ "`, " ++ oneOf all
  | .unknownCode c t => "`" ++ Decimal.intText c ++ "` is not a valid " ++ t
  | .notAnInstant e => e.message

/-- The class of a failure. -/
def category : ReadError → Category
  | .malformed e => e.category
  | _ => .data

end ReadError

end WebhookClient.Json
