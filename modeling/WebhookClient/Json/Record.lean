import WebhookClient.Json.Wire

/-!
# Records

A record is written as an object with one member per field, in the order of the fields; a field
may leave its member out. It is read from an object whose members stand in any order, each field
at most once, members of other names being skipped; or from a list of the values of its fields in
order, which may end early where the missing fields can do without.

The fields of a record are a list `Fields` of descriptions, and the values of a record are a
`Row` along that list, so that what is said of reading and writing is said once for all records.
-/

set_option autoImplicit false

namespace WebhookClient.Json

/-! ## Fields -/

/-- A field: the name of its member, how its value is written (or left out) and read, and the
value it takes if there is no such member. -/
structure Field (τ : Type) where
  name : String
  write : τ → Option Json
  read : Nat → Document → Except ReadError τ
  absent : Option τ

namespace Field

variable {τ : Type} [Wire τ]

/-- A field that must be there. -/
def required (name : String) : Field τ :=
  ⟨name, fun v => some (Wire.write v), Wire.read, none⟩

/-- A field that is left out if it has no value. -/
def optional (name : String) : Field (Option τ) :=
  ⟨name, fun v => v.map Wire.write, Wire.read, some none⟩

/-- A field of a partial update. -/
def nullable (name : String) : Field (Nullable τ) :=
  ⟨name, fun v => if v.isAbsent then none else some (Wire.write v), Wire.read, some .absent⟩

/-- A field that is always written, and takes a given value if it is not there. -/
def defaulting (name : String) (value : τ) : Field τ :=
  ⟨name, fun v => some (Wire.write v), Wire.read, some value⟩

end Field

/-- The fields of a record, by the types of their values. -/
inductive Fields : List Type → Type 1 where
  | nil : Fields []
  | cons {τ : Type} {ts : List Type} (f : Field τ) (fs : Fields ts) : Fields (τ :: ts)

/-- One value for each field. -/
@[reducible] def Row : List Type → Type
  | [] => Unit
  | τ :: ts => τ × Row ts

/-- For each field, the value that has been read for it, if any. -/
@[reducible] def Slots : List Type → Type
  | [] => Unit
  | τ :: ts => Option τ × Slots ts

namespace Fields

/-- The names of the members. -/
def names : {ts : List Type} → Fields ts → List String
  | _, .nil => []
  | _, .cons f fs => f.name :: fs.names

/-- No field has been read. -/
def noSlots : {ts : List Type} → Fields ts → Slots ts
  | _, .nil => ()
  | _, .cons _ fs => (none, fs.noSlots)

/-! ## Writing -/

/-- The members of a row, in order. -/
def write : {ts : List Type} → Fields ts → Row ts → List (String × Json)
  | _, .nil, () => []
  | _, .cons f fs, (v, vs) =>
    match f.write v with
    | some j => (f.name, j) :: fs.write vs
    | none => fs.write vs

/-! ## Reading from members -/

/-- Whether the field of a name has been read. -/
def filled (name : String) : {ts : List Type} → Fields ts → Slots ts → Bool
  | _, .nil, () => false
  | _, .cons f fs, (s, ss) => if f.name = name then s.isSome else fs.filled name ss

/-- Reads the member of a name into its slot. -/
def store (depth : Nat) (name : String) (d : Document) :
    {ts : List Type} → Fields ts → Slots ts → Except ReadError (Slots ts)
  | _, .nil, () => .ok ()
  | _, .cons f fs, (s, ss) =>
    if f.name = name then (f.read depth d).map fun v => (some v, ss)
    else (fs.store depth name d ss).map fun ss => (s, ss)

/-- Reads members into the slots; members of other names are passed to `other`, and come out
beside the slots in their order. -/
def gather (depth : Nat) (other : Document → Except SyntaxError Unit) {ts : List Type}
    (fs : Fields ts) (slots : Slots ts) :
    Members → Except ReadError (Slots ts × List (String × Document))
  | .closed => .ok (slots, [])
  | .textEnds => .error (.malformed .textEndsInObject)
  | .separatorMissing => .error (.malformed .expectedObjectSeparator)
  | .danglingComma => .error (.malformed .trailingComma)
  | .textEndsAfterComma => .error (.malformed .textEndsInValue)
  | .nameMissing _ => .error (.malformed .keyNotString)
  | .colonMissing n e => do
    let n ← n.get.mapError .malformed
    if fs.filled n slots then .error (.duplicateMember n) else .error (.malformed e)
  | .member n d rest => do
    let n ← n.get.mapError .malformed
    if fs.filled n slots then .error (.duplicateMember n)
    else if n ∈ fs.names then
      let slots ← fs.store depth n d slots
      fs.gather depth other slots rest
    else
      (other d).mapError .malformed
      let (slots, others) ← fs.gather depth other slots rest
      .ok (slots, (n, d) :: others)

/-- The row of the slots; the first field that is missing and cannot do without is reported. -/
def complete : {ts : List Type} → Fields ts → Slots ts → Except ReadError (Row ts)
  | _, .nil, () => .ok ()
  | _, .cons f fs, (s, ss) => do
    let v ← match s, f.absent with
      | some v, _ => .ok v
      | none, some v => .ok v
      | none, none => .error (.missingMember f.name)
    .ok (v, (← fs.complete ss))

/-- Reads a row from the members of an object. -/
def ofMembers (depth : Nat) {ts : List Type} (fs : Fields ts) (ms : Members) :
    Except ReadError (Row ts) := do
  let (slots, _) ← fs.gather depth Document.skip fs.noSlots ms
  fs.complete slots

/-! ## Reading from items -/

/-- Reads the values of the fields from the front of a list; `index` fields have been read. -/
def ofItems (depth : Nat) (expected : String) :
    {ts : List Type} → Fields ts → Nat → Items → Except ReadError (Row ts × Items)
  | _, .nil, _, items => .ok ((), items)
  | _, .cons f fs, index, .item d rest => do
    let v ← f.read depth d
    let (vs, rest) ← fs.ofItems depth expected (index + 1) rest
    .ok ((v, vs), rest)
  | _, .cons _ _, _, .broken b => .error (.malformed b.reading)
  | _, .cons f fs, index, .closed =>
    match f.absent with
    | none => .error (.wrongLength index expected)
    | some v => do
      let (vs, rest) ← fs.ofItems depth expected (index + 1) .closed
      .ok ((v, vs), rest)

end Fields

/-! ## Records -/

/-- A type whose values are rows along a list of fields. -/
class Record (α : Type) where
  /-- The name of the type in messages. -/
  title : String
  types : List Type
  fields : Fields types
  toRow : α → Row types
  ofRow : Row types → α
  ofRow_toRow : ∀ a, ofRow (toRow a) = a := by intro _; rfl
  toRow_ofRow : ∀ r, toRow (ofRow r) = r := by intro _; rfl

namespace Record

variable {α : Type} [Record α]

/-- What is expected of a list that gives a record. -/
def expectedLength (title : String) (n : Nat) : String :=
  "struct " ++ title ++ " with " ++ Decimal.text n ++ (if n = 1 then " element" else " elements")

/-- The members of a record. -/
def members (a : α) : List (String × Json) := fields.write (toRow a)

/-- Reads a record from an object or a list. -/
def read (depth : Nat) : Document → Except ReadError α
  | .object ms =>
    match depth with
    | 0 => .error (.malformed .tooDeep)
    | depth + 1 => (fields.ofMembers depth ms).map ofRow
  | .list items =>
    match depth with
    | 0 => .error (.malformed .tooDeep)
    | depth + 1 => do
      let (r, rest) ← fields.ofItems depth (expectedLength (title α) (types α).length) 0 items
      rest.expectEnd.mapError .malformed
      .ok (ofRow r)
  | d => .error (d.unexpected ("struct " ++ title α))

instance : Wire α where
  write a := .object (members a)
  read := read

end Record

end WebhookClient.Json
