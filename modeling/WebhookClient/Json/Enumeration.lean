import WebhookClient.Json.Wire

/-!
# Enumerations

A closed set of values is written either by name, as a string, or by code, as an integer. A named
value may also be read from an object with that name as its only member and `null` under it. Outside
of JSON values are shown by words, even where those are the same texts as the names.
-/

set_option autoImplicit false

namespace WebhookClient.Json

/-! ## By name -/

/-- A closed set of values with distinct names. -/
class Named (α : Type) where
  all : List α
  name : α → String
  mem_all : ∀ a, a ∈ all
  name_injective : ∀ a b, name a = name b → a = b

namespace Named

variable {α : Type} [Named α]

/-- The value of a name. -/
def ofName? (s : String) : Option α := all.find? fun a => name a = s

theorem ofName?_name (a : α) : ofName? (name a) = some a := by
  unfold ofName?
  cases h : (all : List α).find? fun b => name b = name a with
  | none => exact absurd (decide_eq_true rfl) (List.find?_eq_none.1 h a (mem_all a))
  | some b =>
    have := List.find?_some h
    exact congrArg some (name_injective b a (by simpa using this))

theorem name_of_ofName? {s : String} {a : α} (h : ofName? s = some a) : name a = s := by
  simpa using List.find?_some h

/-- A name must have a value. -/
def get (s : String) : Except ReadError α :=
  match ofName? s with
  | some a => .ok a
  | none => .error (.unknownName s ((all : List α).map name))

/-- The members of an object that gives a name: one, with `null` under it. -/
def ofMembers : Members → Except ReadError α
  | .closed => .error (.malformed .expectedValue)
  | .textEnds => .error (.malformed .textEndsInObject)
  | .nameMissing found => .error (found.unexpected "variant identifier")
  | .colonMissing n e => do
    let _ ← get (α := α) (← n.get.mapError .malformed)
    .error (.malformed e)
  | .member n d rest => do
    let a ← get (← n.get.mapError .malformed)
    let () ← Wire.read 0 d
    match rest with
    | .closed => .ok a
    | .textEnds => .error (.malformed .textEndsInObject)
    | _ => .error (.malformed .expectedValue)
  | _ => .error (.malformed .expectedValue)

instance : Wire α where
  write a := .string (name a)
  read depth
    | .string t => do get (← t.get.mapError .malformed)
    | .object members =>
      match depth with
      | 0 => .error (.malformed .tooDeep)
      | _ + 1 => ofMembers members
    | .missing => .error (.malformed .textEndsInValue)
    | _ => .error (.malformed .expectedValue)

end Named

/-! ## By code -/

/-- A closed set of values with distinct codes of 16 bits. -/
class Coded (α : Type) where
  /-- The name of the set in messages. -/
  title : String
  all : List α
  code : α → Bounded .i16
  mem_all : ∀ a, a ∈ all
  code_injective : ∀ a b, code a = code b → a = b

namespace Coded

variable {α : Type} [Coded α]

/-- The value of a code. -/
def ofCode? (c : Bounded .i16) : Option α := all.find? fun a => code a = c

theorem ofCode?_code (a : α) : ofCode? (code a) = some a := by
  unfold ofCode?
  cases h : (all : List α).find? fun b => code b = code a with
  | none => exact absurd (decide_eq_true rfl) (List.find?_eq_none.1 h a (mem_all a))
  | some b =>
    have := List.find?_some h
    exact congrArg some (code_injective b a (by simpa using this))

theorem code_of_ofCode? {c : Bounded .i16} {a : α} (h : ofCode? c = some a) : code a = c := by
  simpa using List.find?_some h

instance : Wire α where
  write a := Wire.write (code a)
  read depth d := do
    let c : Bounded .i16 ← Wire.read depth d
    match ofCode? c with
    | some a => .ok a
    | none => .error (.unknownCode c.value (title α))

end Coded

/-! ## By word -/

/-- A closed set of values with distinct words. -/
class Worded (α : Type) where
  all : List α
  /-- The text that a value is shown as. -/
  word : α → String
  mem_all : ∀ a, a ∈ all
  word_injective : ∀ a b, word a = word b → a = b

/-- The value of a word. -/
def Worded.ofWord? {α : Type} [Worded α] (s : String) : Option α := all.find? fun a => word a = s

end WebhookClient.Json
