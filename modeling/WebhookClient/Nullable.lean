/-!
# Optional changes

A value that a partial update can leave out, send as `null`, or set. Leaving it out keeps what
is stored; `null` clears it.
-/

set_option autoImplicit false

namespace WebhookClient

/-- A value left out, sent as `null`, or set. -/
inductive Nullable (α : Type) where
  | absent
  | null
  | value (v : α)
deriving DecidableEq, BEq, Repr

namespace Nullable

variable {α β : Type}

instance : Inhabited (Nullable α) := ⟨.absent⟩

def isAbsent : Nullable α → Bool
  | .absent => true
  | _ => false

def isNull : Nullable α → Bool
  | .null => true
  | _ => false

/-- The value, if one is set. -/
def toOption : Nullable α → Option α
  | .value v => some v
  | _ => none

/-- A value that may be missing: none is sent as `null`. -/
def ofOption : Option α → Nullable α
  | some v => .value v
  | none => .null

/-- Changes the value, if one is set. -/
def map (f : α → β) : Nullable α → Nullable β
  | .absent => .absent
  | .null => .null
  | .value v => .value (f v)

@[simp] theorem toOption_ofOption (o : Option α) : (ofOption o).toOption = o := by
  cases o <;> rfl

@[simp] theorem toOption_map (f : α → β) (n : Nullable α) :
    (n.map f).toOption = n.toOption.map f := by
  cases n <;> rfl

end Nullable

end WebhookClient
