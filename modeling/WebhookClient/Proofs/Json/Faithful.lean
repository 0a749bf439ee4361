import Mathlib
import WebhookClient.Json.Record
import WebhookClient.Proofs.Instant.Text
import WebhookClient.Proofs.Json.Text

/-!
# JSON forms tell values apart

A type is `Faithful` if no two of its values are written alike. The simple types are, lists and
dictionaries of such types are, and so is a record whose fields are and have distinct names.
Main statements: `Fields.write_injective` and `encode_injective`.
-/

set_option autoImplicit false

namespace WebhookClient.Json

/-- No two values of the type are written alike. -/
class Faithful (α : Type) [Wire α] : Prop where
  write_injective : ∀ {a b : α}, Wire.write a = Wire.write b → a = b

/-- No value of the type is written as `null`. -/
class NeverNull (α : Type) [Wire α] : Prop where
  write_ne_null : ∀ a : α, Wire.write a ≠ .null

export Faithful (write_injective)
export NeverNull (write_ne_null)

/-- Two values with the same text are the same. -/
theorem encode_injective {α : Type} [Wire α] [Faithful α] {a b : α} (h : encode a = encode b) :
    a = b :=
  write_injective (toText_injective h)

/-! ## Simple types -/

instance : Faithful Json where
  write_injective h := h

instance : Faithful Bool where
  write_injective h := Json.bool.inj h

instance : NeverNull Bool where
  write_ne_null _ h := Json.noConfusion h

instance : Faithful String where
  write_injective h := Json.string.inj h

instance : NeverNull String where
  write_ne_null _ h := Json.noConfusion h

instance : Faithful Instant where
  write_injective h := Instant.toText_injective (Json.string.inj h)

instance : NeverNull Instant where
  write_ne_null _ h := Json.noConfusion h

instance {w : Width} : Faithful (Bounded w) where
  write_injective h := Bounded.value_injective (Number.int.inj (Json.number.inj h))

instance {w : Width} : NeverNull (Bounded w) where
  write_ne_null _ h := Json.noConfusion h

/-! ## Lists and dictionaries -/

section

variable {α : Type} [Wire α]

instance [Faithful α] : Faithful (List α) where
  write_injective h :=
    List.map_injective_iff.2 (fun _ _ => write_injective) (Json.list.inj h)

instance : NeverNull (List α) where
  write_ne_null _ h := Json.noConfusion h

instance [Faithful α] : Faithful (Dict α) where
  write_injective := by
    intro a b h
    refine Dict.ext_entries (List.map_injective_iff.2 ?_ (Json.object.inj h))
    rintro ⟨k, v⟩ ⟨l, w⟩ hkl
    obtain ⟨hname, hvalue⟩ := Prod.mk.inj hkl
    exact Prod.ext hname (write_injective hvalue)

instance : NeverNull (Dict α) where
  write_ne_null _ h := Json.noConfusion h

end

/-! ## Fields -/

/-- No two values of a field are written alike; leaving the member out is one of the ways. -/
class Field.Faithful {τ : Type} (f : Field τ) : Prop where
  write_injective : ∀ {v w : τ}, f.write v = f.write w → v = w

/-- All fields of a record are faithful. -/
class inductive Fields.Faithful : {ts : List Type} → Fields ts → Prop where
  | nil : Fields.Faithful .nil
  | cons {τ : Type} {ts : List Type} {f : Field τ} {fs : Fields ts} :
      f.Faithful → Fields.Faithful fs → Fields.Faithful (.cons f fs)

instance : Fields.Faithful .nil := .nil

instance {τ : Type} {ts : List Type} {f : Field τ} {fs : Fields ts} [hf : f.Faithful]
    [hfs : fs.Faithful] : Fields.Faithful (.cons f fs) := .cons hf hfs

namespace Field

variable {τ : Type} [Wire τ] [Json.Faithful τ] {name : String}

instance : (required (τ := τ) name).Faithful where
  write_injective h := Json.write_injective (Option.some.inj h)

instance {value : τ} : (defaulting name value).Faithful where
  write_injective h := Json.write_injective (Option.some.inj h)

instance : (optional (τ := τ) name).Faithful where
  write_injective h := Option.map_injective (fun _ _ => Json.write_injective) h

/-- A change is told from a cleared value because no value is written as `null`. -/
instance [NeverNull τ] : (nullable (τ := τ) name).Faithful where
  write_injective := by
    intro v w h
    cases v with
    | absent =>
      cases w with
      | absent => rfl
      | null => cases h
      | value w => cases h
    | null =>
      cases w with
      | absent => cases h
      | null => rfl
      | value w => exact absurd (Option.some.inj h).symm (write_ne_null w)
    | value v =>
      cases w with
      | absent => cases h
      | null => exact absurd (Option.some.inj h) (write_ne_null v)
      | value w => exact congrArg Nullable.value (Json.write_injective (Option.some.inj h))

end Field

namespace Fields

/-- Only names of fields stand before the members of a row. -/
theorem name_mem_of_mem_write {ts : List Type} {fs : Fields ts} {r : Row ts}
    {m : String × Json} (h : m ∈ fs.write r) : m.1 ∈ fs.names := by
  induction fs with
  | nil => cases h
  | cons f fs ih =>
    obtain ⟨v, vs⟩ := r
    simp only [write] at h
    split at h
    · rcases List.mem_cons.1 h with rfl | h
      · exact List.mem_cons_self
      · exact List.mem_cons_of_mem _ (ih h)
    · exact List.mem_cons_of_mem _ (ih h)

/-- Rows along faithful fields of distinct names are told apart by their members. -/
theorem write_injective {ts : List Type} {fs : Fields ts} (hfs : fs.Faithful)
    (hnames : fs.names.Nodup) {r s : Row ts} (h : fs.write r = fs.write s) : r = s := by
  induction hfs with
  | nil => rfl
  | @cons τ ts f fs hf hfs ih =>
    obtain ⟨v, vs⟩ := r
    obtain ⟨w, ws⟩ := s
    obtain ⟨hname, hnames⟩ := List.nodup_cons.1 hnames
    -- A member that one row leaves out cannot come from a later field of the other.
    have hlater : ∀ {j : Json} {us us' : Row ts},
        (f.name, j) :: fs.write us ≠ fs.write us' := by
      intro j us us' heq
      refine hname (name_mem_of_mem_write (m := (f.name, j)) (r := us') ?_)
      rw [← heq]
      exact List.mem_cons_self
    simp only [write] at h
    cases hv : f.write v with
    | none =>
      cases hw : f.write w with
      | none =>
        rw [hv, hw] at h
        rw [hf.write_injective (hv.trans hw.symm), ih hnames h]
      | some k =>
        rw [hv, hw] at h
        exact absurd h.symm hlater
    | some j =>
      cases hw : f.write w with
      | none =>
        rw [hv, hw] at h
        exact absurd h hlater
      | some k =>
        rw [hv, hw] at h
        obtain ⟨hjk, hrest⟩ := List.cons.inj h
        rw [← (Prod.mk.inj hjk).2] at hw
        rw [hf.write_injective (hv.trans hw.symm), ih hnames hrest]

end Fields

/-! ## Records -/

namespace Record

variable {α : Type} [Record α]

/-- A record whose fields are faithful and have distinct names is faithful. Both are found from
the list of the fields. -/
theorem faithful
    (hfs : (fields (α := α)).Faithful := by dsimp only [Record.fields]; infer_instance)
    (hnames : (fields (α := α)).names.Nodup := by decide) : Json.Faithful α where
  write_injective := by
    intro a b h
    have hrow := Fields.write_injective hfs hnames (Json.object.inj h)
    rw [← ofRow_toRow a, ← ofRow_toRow b, hrow]

end Record

end WebhookClient.Json
