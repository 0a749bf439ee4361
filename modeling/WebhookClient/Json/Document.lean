import WebhookClient.Json.StringToken
import WebhookClient.Json.Value

/-!
# JSON documents

A document is what a text says when it is read as JSON, as far as it can be read: a tree whose
leaves are also the places where the text is not JSON. Blanks, the spelling of numbers and the
spelling of strings are gone; repeated members and their order are kept. A reader of a type walks
the tree, so that what it reports is the first thing wrong for it in the order of the text.
-/

set_option autoImplicit false

namespace WebhookClient.Json

/-! ## The tree -/

/-- Where the items of a list break off. -/
inductive ListBreak where
  | textEnds
  | separatorMissing
  /-- A comma before the closing bracket. -/
  | danglingComma
  /-- A comma at the end of the text. -/
  | textEndsAfterComma
deriving DecidableEq, Repr

mutual

/-- A value as it stands in a text. -/
inductive Document where
  | null
  | bool (b : Bool)
  | number (n : Number)
  /-- A number above the largest double: it can be skipped, but not read. -/
  | overlarge
  | string (t : StringToken)
  | list (items : Items)
  | object (members : Members)
  /-- Something that is no value. -/
  | malformed (f : Fault)
  /-- The text ends. -/
  | missing

/-- The items of a list. -/
inductive Items where
  | closed
  | broken (b : ListBreak)
  | item (value : Document) (rest : Items)

/-- The members of an object. -/
inductive Members where
  | closed
  | textEnds
  | separatorMissing
  /-- A comma before the closing brace. -/
  | danglingComma
  /-- A comma at the end of the text. -/
  | textEndsAfterComma
  /-- Something other than a string where a name must stand. -/
  | nameMissing (found : Document)
  /-- A name that no colon follows. -/
  | colonMissing (name : StringToken) (e : SyntaxError)
  | member (name : StringToken) (value : Document) (rest : Members)

end

instance : Inhabited Document := ⟨.null⟩

namespace Items

/-- Items in front of others. -/
def append : List Document → Items → Items
  | [], rest => rest
  | d :: ds, rest => .item d (append ds rest)

/-- The items of a list, without how it ends. -/
def toList : Items → List Document
  | .item d rest => d :: rest.toList
  | _ => []

end Items

namespace Members

/-- Members in front of others. -/
def append : List (StringToken × Document) → Members → Members
  | [], rest => rest
  | (n, d) :: ms, rest => .member n d (append ms rest)

/-- The members of an object, without how it ends. -/
def toList : Members → List (StringToken × Document)
  | .member n d rest => (n, d) :: rest.toList
  | _ => []

end Members

/-! ## Tokens -/

/-- A token of a text: a mark, a string, or another value without parts. -/
inductive Token where
  | openList
  | closeList
  | openObject
  | closeObject
  | comma
  | colon
  | text (t : StringToken)
  | leaf (d : Document)

/-- Blanks between tokens. -/
def isSpace (c : Char) : Bool := c = ' ' || c = '\n' || c = '\t' || c = '\r'

/-- The value of a word whose first letter has been read, if the rest of it follows. -/
def word (value : Document) : List Char → List Char → Token × List Char
  | [], cs => (.leaf value, cs)
  | _ :: _, [] => (.leaf (.malformed (.always .textEndsInValue)), [])
  | w :: ws, c :: cs =>
    if w = c then word value ws cs else (.leaf (.malformed (.always .expectedLiteral)), cs)

/-- The token of a number, and the text after it. -/
def numberToken (cs : List Char) : Token × List Char :=
  match Numeral.read cs with
  | .ok (n, rest) => (.leaf (n.toNumber?.elim .overlarge .number), rest)
  | .error .textEnds => (.leaf (.malformed ⟨.textEndsInValue, .invalidNumber⟩), [])
  | .error .notADigit => (.leaf (.malformed (.always .invalidNumber)), [])

/-- The token that starts with a character, and the text after it. -/
def token (c : Char) (cs : List Char) : Token × List Char :=
  match c with
  | '[' => (.openList, cs)
  | ']' => (.closeList, cs)
  | '\x7b' => (.openObject, cs)
  | '\x7d' => (.closeObject, cs)
  | ',' => (.comma, cs)
  | ':' => (.colon, cs)
  | '"' =>
    let (t, rest) := StringToken.read cs
    (.text t, rest)
  | 'n' => word .null ['u', 'l', 'l'] cs
  | 't' => word (.bool true) ['r', 'u', 'e'] cs
  | 'f' => word (.bool false) ['a', 'l', 's', 'e'] cs
  | c =>
    if c = '-' || c.isDigit then numberToken (c :: cs)
    else (.leaf (.malformed (.always .expectedValue)), cs)

theorem length_word_le (value : Document) (ws cs : List Char) :
    (word value ws cs).2.length ≤ cs.length := by
  fun_induction word value ws cs <;> simp_all
  omega

theorem length_numberToken_le (c : Char) (cs : List Char) :
    (numberToken (c :: cs)).2.length ≤ cs.length := by
  unfold numberToken
  split
  · next n rest h => exact Nat.le_of_lt_succ (Numeral.length_read_lt h)
  · exact Nat.zero_le _
  · exact Nat.zero_le _

theorem length_token_le (c : Char) (cs : List Char) : (token c cs).2.length ≤ cs.length := by
  unfold token
  split <;> try simp only [Nat.le_refl]
  · exact StringToken.length_read_le cs
  · exact length_word_le ..
  · exact length_word_le ..
  · exact length_word_le ..
  · split
    · exact length_numberToken_le c cs
    · exact Nat.le_refl _

/-- The tokens of a text. -/
def tokens (cs : List Char) : List Token :=
  match cs with
  | [] => []
  | c :: cs =>
    if isSpace c then tokens cs
    else (token c cs).1 :: tokens (token c cs).2
termination_by cs.length
decreasing_by
  · simp
  · have := length_token_le c cs
    simp only [List.length_cons]
    omega

/-! ## Building the tree -/

/-- A list or object that is still open: what stands in it so far, last first. -/
inductive Frame where
  | list (before : List Document)
  | object (before : List (StringToken × Document)) (name : StringToken)

/-- The open lists and objects around a place that cannot be read on, cut off after it. -/
def cutOff : List Frame → Document → Document
  | [], d => d
  | .list before :: stack, d =>
    cutOff stack (.list (.append before.reverse (.item d (.broken .textEnds))))
  | .object before name :: stack, d =>
    cutOff stack (.object (.append before.reverse (.member name d .textEnds)))

/-- The innermost list, with its items so far and how it breaks off. -/
def breakList (stack : List Frame) (before : List Document) (b : ListBreak) : Document :=
  cutOff stack (.list (.append before.reverse (.broken b)))

/-- The innermost object, with its members so far and how it breaks off. -/
def breakObject (stack : List Frame) (before : List (StringToken × Document)) (b : Members) :
    Document :=
  cutOff stack (.object (.append before.reverse b))

/-- What a token is found to be where a name must stand. -/
def Token.found : Token → Document
  | .openList => .list .closed
  | .openObject => .object .closed
  | .text t => .string t
  | .leaf d => d
  | _ => .malformed (.always .expectedValue)

/-- A document, and whether the text ends with it. -/
structure Text where
  root : Document
  complete : Bool

/-- What is expected next, and what has been read. -/
inductive State where
  /-- A value. -/
  | value (stack : List Frame)
  /-- The first item of a list, or its end. -/
  | firstItem (stack : List Frame)
  /-- An item after a comma. -/
  | nextItem (stack : List Frame) (before : List Document)
  /-- The first name of an object, or its end. -/
  | firstName (stack : List Frame)
  /-- A name after a comma. -/
  | nextName (stack : List Frame) (before : List (StringToken × Document))
  /-- The colon after a name. -/
  | colon (stack : List Frame) (before : List (StringToken × Document)) (name : StringToken)
  /-- A comma or the end of a list. -/
  | inList (stack : List Frame) (items : List Document)
  /-- A comma or the end of an object. -/
  | inObject (stack : List Frame) (members : List (StringToken × Document))
  /-- Nothing more. -/
  | complete (d : Document)
  /-- The text cannot be read on. -/
  | stopped (t : Text)

namespace State

/-- A value is complete in the lists and objects around it. -/
def add (d : Document) : List Frame → State
  | [] => .complete d
  | .list before :: stack => .inList stack (d :: before)
  | .object before name :: stack => .inObject stack ((name, d) :: before)

/-- The text cannot be read on; it is no whole document. -/
def stop (d : Document) : State := .stopped ⟨d, true⟩

/-- A token where a value must stand. -/
def begin (stack : List Frame) : Token → State
  | .openList => .firstItem stack
  | .openObject => .firstName stack
  | .text t => add (.string t) stack
  | .leaf d => add d stack
  | _ => stop (cutOff stack (.malformed (.always .expectedValue)))

/-- Takes one token. -/
def step : State → Token → State
  | .value stack, t => begin stack t
  | .firstItem stack, .closeList => add (.list .closed) stack
  | .firstItem stack, t => begin (.list [] :: stack) t
  | .nextItem stack before, .closeList => stop (breakList stack before .danglingComma)
  | .nextItem stack before, t => begin (.list before :: stack) t
  | .firstName stack, .closeObject => add (.object .closed) stack
  | .firstName stack, .text t => .colon stack [] t
  | .firstName stack, t => stop (breakObject stack [] (.nameMissing t.found))
  | .nextName stack before, .text t => .colon stack before t
  | .nextName stack before, .closeObject => stop (breakObject stack before .danglingComma)
  | .nextName stack before, t => stop (breakObject stack before (.nameMissing t.found))
  | .colon stack before name, .colon => .value (.object before name :: stack)
  | .colon stack before name, _ =>
    stop (breakObject stack before (.colonMissing name .expectedColon))
  | .inList stack items, .comma => .nextItem stack items
  | .inList stack items, .closeList => add (.list (.append items.reverse .closed)) stack
  | .inList stack items, _ => stop (breakList stack items .separatorMissing)
  | .inObject stack members, .comma => .nextName stack members
  | .inObject stack members, .closeObject =>
    add (.object (.append members.reverse .closed)) stack
  | .inObject stack members, _ => stop (breakObject stack members .separatorMissing)
  | .complete d, _ => .stopped ⟨d, false⟩
  | .stopped t, _ => .stopped t

/-- The text ends. -/
def finish : State → Text
  | .value stack => ⟨cutOff stack .missing, true⟩
  | .firstItem stack => ⟨breakList stack [] .textEnds, true⟩
  | .nextItem stack before => ⟨breakList stack before .textEndsAfterComma, true⟩
  | .firstName stack => ⟨breakObject stack [] .textEnds, true⟩
  | .nextName stack before => ⟨breakObject stack before .textEndsAfterComma, true⟩
  | .colon stack before name =>
    ⟨breakObject stack before (.colonMissing name .textEndsInObject), true⟩
  | .inList stack items => ⟨breakList stack items .textEnds, true⟩
  | .inObject stack members => ⟨breakObject stack members .textEnds, true⟩
  | .complete d => ⟨d, true⟩
  | .stopped t => t

end State

/-- What a text says as JSON. -/
def Text.ofChars (cs : List Char) : Text := ((tokens cs).foldl State.step (.value [])).finish

/-- The document of a value that is at hand. -/
def Document.ofJson : Json → Document
  | .null => .null
  | .bool b => .bool b
  | .number n => .number n
  | .string s => .string (.plain s)
  | .list items => .list (ofItems items)
  | .object members => .object (ofMembers members)
where
  ofItems : List Json → Items
    | [] => .closed
    | j :: js => .item (Document.ofJson j) (ofItems js)
  ofMembers : List (String × Json) → Members
    | [] => .closed
    | (k, j) :: ms => .member (.plain k) (Document.ofJson j) (ofMembers ms)

end WebhookClient.Json
