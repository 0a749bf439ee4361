import WebhookClient.Instant.Text
import WebhookClient.Json.Dict
import WebhookClient.Json.Reader
import WebhookClient.Nullable

/-!
# Types with a JSON form

`Wire α` says how values of a type are written as JSON and read from a document. Here are the
forms of the simple types, of bounded integers, lists, dictionaries and optional values; records
and enumerations have modules of their own.
-/

set_option autoImplicit false

namespace WebhookClient.Json

/-- The JSON form of a type. Reading is given how deep lists and objects may nest. -/
class Wire (α : Type) where
  write : α → Json
  read : Nat → Document → Except ReadError α

/-- Reads the document of a text, which must end with it. -/
def Text.decode {α : Type} [Wire α] (t : Text) : Except ReadError α := do
  let v ← Wire.read maxDepth t.root
  if t.complete then .ok v else .error (.malformed .trailingCharacters)

/-- Reads a text as a value of a type. -/
def decode {α : Type} [Wire α] (s : String) : Except ReadError α := (Text.ofChars s.toList).decode

/-- The text of a value of a type. -/
def encode {α : Type} [Wire α] (v : α) : String := (Wire.write v).toText

/-! ## Simple types -/

instance : Wire Json where
  write j := j
  read depth d := (d.toJson depth).mapError .malformed

instance : Wire Unit where
  write _ := .null
  read
    | _, .null => .ok ()
    | _, d => .error (d.unexpected "unit")

instance : Wire Bool where
  write := .bool
  read
    | _, .bool b => .ok b
    | _, d => .error (d.unexpected "a boolean")

instance : Wire String where
  write := .string
  read
    | _, .string (.plain s) => .ok s
    | _, d => .error (d.unexpected "a string")

instance : Wire Instant where
  write t := .string t.toText
  read
    | _, .string (.plain s) => (Instant.ofText s).mapError .notAnInstant
    | _, d => .error (d.unexpected "an RFC 3339 formatted date and time string")

/-! ## Bounded integers -/

/-- The integer ranges that occur in records. -/
inductive Width where
  | u16
  | u32
  | u64
  | i16
  | i32
  | i64
deriving DecidableEq, Repr

namespace Width

/-- The name of a range in messages. -/
def title : Width → String
  | .u16 => "u16"
  | .u32 => "u32"
  | .u64 => "u64"
  | .i16 => "i16"
  | .i32 => "i32"
  | .i64 => "i64"

/-- The least integer of a range. -/
def least : Width → Int
  | .u16 | .u32 | .u64 => 0
  | .i16 => -32768
  | .i32 => -2147483648
  | .i64 => -9223372036854775808

/-- The greatest integer of a range. -/
def greatest : Width → Int
  | .u16 => 65535
  | .u32 => 4294967295
  | .u64 => 18446744073709551615
  | .i16 => 32767
  | .i32 => 2147483647
  | .i64 => 9223372036854775807

end Width

/-- An integer of a range. -/
structure Bounded (w : Width) where
  value : Int
  inRange : w.least ≤ value ∧ value ≤ w.greatest
deriving DecidableEq

namespace Bounded

instance {w : Width} : BEq (Bounded w) := ⟨fun a b => a.value == b.value⟩

theorem value_injective {w : Width} {a b : Bounded w} (h : a.value = b.value) : a = b := by
  cases a
  cases b
  cases h
  rfl

/-- The integer as a member of the range, if it is one. -/
def ofInt? (w : Width) (i : Int) : Option (Bounded w) :=
  if h : w.least ≤ i ∧ i ≤ w.greatest then some ⟨i, h⟩ else none

theorem ofInt?_value {w : Width} (b : Bounded w) : ofInt? w b.value = some b := by
  simp [ofInt?, b.inRange]

end Bounded

instance {w : Width} : Wire (Bounded w) where
  write b := .number (.int b.value)
  read
    | _, .number (.int i) =>
      match Bounded.ofInt? w i with
      | some b => .ok b
      | none => .error (.wrongValue (.number (.int i)) w.title)
    | _, d => .error (d.unexpected w.title)

/-! ## Lists, dictionaries and optional values -/

/-- Reads the items of a list one by one. -/
def Items.readAll {α : Type} (read : Document → Except ReadError α) :
    Items → Except ReadError (List α)
  | .closed => .ok []
  | .broken b => .error (.malformed b.reading)
  | .item d rest => do
    let v ← read d
    .ok (v :: (← rest.readAll read))

instance {α : Type} [Wire α] : Wire (List α) where
  write vs := .list (vs.map Wire.write)
  read depth
    | .list items =>
      match depth with
      | 0 => .error (.malformed .tooDeep)
      | depth + 1 => items.readAll (Wire.read depth)
    | d => .error (d.unexpected "a sequence")

/-- Reads the members of a dictionary into those read so far. -/
def Members.readAll {α : Type} (read : Document → Except ReadError α) (sofar : Dict α) :
    Members → Except ReadError (Dict α)
  | .closed => .ok sofar
  | .textEnds => .error (.malformed .textEndsInObject)
  | .separatorMissing => .error (.malformed .expectedObjectSeparator)
  | .danglingComma => .error (.malformed .trailingComma)
  | .textEndsAfterComma => .error (.malformed .textEndsInValue)
  | .nameMissing _ => .error (.malformed .keyNotString)
  | .colonMissing n e => do
    let _ ← n.get.mapError .malformed
    .error (.malformed e)
  | .member n d rest => do
    let n ← n.get.mapError .malformed
    let v ← read d
    rest.readAll read (sofar.insert n v)

instance {α : Type} [Wire α] : Wire (Dict α) where
  write d := .object (d.entries.map fun e => (e.1, Wire.write e.2))
  read depth
    | .object members =>
      match depth with
      | 0 => .error (.malformed .tooDeep)
      | depth + 1 => members.readAll (Wire.read depth) .empty
    | d => .error (d.unexpected "a map")

instance {α : Type} [Wire α] : Wire (Option α) where
  write
    | none => .null
    | some v => Wire.write v
  read
    | _, .null => .ok none
    | depth, d => (Wire.read depth d).map some

instance {α : Type} [Wire α] : Wire (Nullable α) where
  write n := Wire.write n.toOption
  read depth d := (Wire.read depth d).map Nullable.ofOption

end WebhookClient.Json
