import WebhookClient.Json.Document

/-!
# Reading and skipping documents

`Document.skip` passes over a value of no interest: it must be JSON in form, but nesting, the
size of numbers and the pairing of units are not looked at. `Document.toJson` reads a value of
any kind; lists and objects may nest to a given depth. Members of an object come out sorted by
name, the last of several members of one name counts.
-/

set_option autoImplicit false

namespace WebhookClient.Json

/-! ## What is reported -/

/-- What is reported where a list breaks off and an item is wanted. -/
def ListBreak.reading : ListBreak → SyntaxError
  | .textEnds => .textEndsInList
  | .separatorMissing => .expectedListSeparator
  | .danglingComma => .trailingComma
  | .textEndsAfterComma => .textEndsInValue

/-- What is reported where a skipped list breaks off. -/
def ListBreak.skipping : ListBreak → SyntaxError
  | .textEnds => .textEndsInList
  | .separatorMissing => .expectedListSeparator
  | .danglingComma => .expectedValue
  | .textEndsAfterComma => .textEndsInValue

/-- What is reported where a list breaks off and its end is wanted. -/
def ListBreak.closing : ListBreak → SyntaxError
  | .textEnds => .textEndsInList
  | .separatorMissing => .trailingCharacters
  | .danglingComma => .trailingComma
  | .textEndsAfterComma => .trailingCharacters

/-- What is reported if a list does not end here. -/
def Items.expectEnd : Items → Except SyntaxError Unit
  | .closed => .ok ()
  | .broken b => .error b.closing
  | .item _ _ => .error .trailingCharacters

/-- The text of a string token. -/
def StringToken.get : StringToken → Except SyntaxError String
  | .plain s => .ok s
  | .unreadable e => .error e
  | .broken f => .error f.reading

/-- Passes over a string token. -/
def StringToken.skip : StringToken → Except SyntaxError Unit
  | .plain _ => .ok ()
  | .unreadable _ => .ok ()
  | .broken f => .error f.skipping

/-! ## Skipping -/

mutual

/-- Passes over a value. -/
def Document.skip : Document → Except SyntaxError Unit
  | .null | .bool _ | .number _ | .overlarge => .ok ()
  | .string t => t.skip
  | .list items => items.skip
  | .object members => members.skip
  | .malformed f => .error f.skipping
  | .missing => .error .textEndsInValue

def Items.skip : Items → Except SyntaxError Unit
  | .closed => .ok ()
  | .broken b => .error b.skipping
  | .item d rest => do
    d.skip
    rest.skip

def Members.skip : Members → Except SyntaxError Unit
  | .closed => .ok ()
  | .textEnds => .error .textEndsInObject
  | .separatorMissing => .error .expectedObjectSeparator
  | .danglingComma => .error .keyNotString
  | .textEndsAfterComma => .error .textEndsInObject
  | .nameMissing _ => .error .keyNotString
  | .colonMissing n e => do
    n.skip
    .error e
  | .member n d rest => do
    n.skip
    d.skip
    rest.skip

end

/-! ## Reading -/

/-- How deep lists and objects may nest. -/
def maxDepth : Nat := 127

mutual

/-- Reads a value of any kind, its lists and objects nested at most `depth` deep. -/
def Document.toJson (depth : Nat) : Document → Except SyntaxError Json
  | .null => .ok .null
  | .bool b => .ok (.bool b)
  | .number n => .ok (.number n)
  | .overlarge => .error .numberOutOfRange
  | .string t => t.get.map .string
  | .list items =>
    match depth with
    | 0 => .error .tooDeep
    | depth + 1 => (items.toJson depth).map .list
  | .object members =>
    match depth with
    | 0 => .error .tooDeep
    | depth + 1 => (members.toJson depth []).map .object
  | .malformed f => .error f.reading
  | .missing => .error .textEndsInValue

def Items.toJson (depth : Nat) : Items → Except SyntaxError (List Json)
  | .closed => .ok []
  | .broken b => .error b.reading
  | .item d rest => do
    let j ← d.toJson depth
    .ok (j :: (← rest.toJson depth))

/-- Reads members into those read so far. -/
def Members.toJson (depth : Nat) (read : List (String × Json)) :
    Members → Except SyntaxError (List (String × Json))
  | .closed => .ok read
  | .textEnds => .error .textEndsInObject
  | .separatorMissing => .error .expectedObjectSeparator
  | .danglingComma => .error .trailingComma
  | .textEndsAfterComma => .error .textEndsInValue
  | .nameMissing _ => .error .keyNotString
  | .colonMissing n e => do
    let _ ← n.get
    .error e
  | .member n d rest => do
    let n ← n.get
    let j ← d.toJson depth
    rest.toJson depth (insert n j read)

end

/-! ## Finding the wrong kind -/

/-- What is reported of a document where a value of another kind is wanted. -/
def Document.unexpected (expected : String) : Document → ReadError
  | .null => .wrongType .null expected
  | .bool b => .wrongType (.bool b) expected
  | .number n => .wrongType (.number n) expected
  | .overlarge => .malformed .numberOutOfRange
  | .string t =>
    match t.get with
    | .ok s => .wrongType (.string s) expected
    | .error e => .malformed e
  | .list _ => .wrongType .list expected
  | .object _ => .wrongType .object expected
  | .malformed f => .malformed f.reading
  | .missing => .malformed .textEndsInValue

end WebhookClient.Json
