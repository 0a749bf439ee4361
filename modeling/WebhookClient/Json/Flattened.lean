import WebhookClient.Json.Record

/-!
# Records within records

A record can hold another one whose members stand among its own. All members that are not its own
are first read as values of any kind, whoever they belong to; the inner record is then read from
them. Such a record is not read from a list.
-/

set_option autoImplicit false

namespace WebhookClient.Json

/-- A type whose values are an inner record and a row along further fields. -/
class Flattened (α : Type) (ι : outParam Type) [Record ι] where
  /-- The name of the type in messages. -/
  title : String
  types : List Type
  fields : Fields types
  toParts : α → ι × Row types
  ofParts : ι × Row types → α
  ofParts_toParts : ∀ a, ofParts (toParts a) = a := by intro _; rfl
  toParts_ofParts : ∀ p, toParts (ofParts p) = p := by intro _; rfl

namespace Flattened

variable {α ι : Type} [Record ι] [Flattened α ι]

/-- The members of a value: those of the inner record, and then its own. -/
def members (a : α) : List (String × Json) :=
  Record.members (toParts a).1 ++ (fields (α := α)).write (toParts a).2

/-- Members that have been read by name, as the members of an object. -/
def asMembers (ms : List (String × Document)) : Members :=
  .append (ms.map fun m => (.plain m.1, m.2)) .closed

/-- Reads a value from the members of an object. -/
def ofMembers (depth : Nat) (ms : Members) : Except ReadError α := do
  let fs := fields (α := α)
  let (slots, others) ←
    fs.gather depth (fun d => (d.toJson depth).map fun _ => ()) fs.noSlots ms
  let row ← fs.complete slots
  let inner ← (Record.fields (α := ι)).ofMembers depth (asMembers others)
  .ok (ofParts (Record.ofRow inner, row))

/-- Reads a value from an object. -/
def read (depth : Nat) : Document → Except ReadError α
  | .object ms =>
    match depth with
    | 0 => .error (.malformed .tooDeep)
    | depth + 1 => ofMembers depth ms
  | d => .error (d.unexpected ("struct " ++ title α))

instance : Wire α where
  write a := .object (members a)
  read := read

end Flattened

end WebhookClient.Json
