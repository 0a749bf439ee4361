import Mathlib
import WebhookClient.Json.Flattened
import WebhookClient.Proofs.Except
import WebhookClient.Proofs.Json.Document

/-!
# Reading whole texts

A text is read as a value of a type just if its document is and nothing follows that. The text
of a value has the document of that value: `decode_toText_iff`. A document is `null` just if it
is read as the unit value, and it is then no record and no list.
-/

set_option autoImplicit false

namespace WebhookClient.Json

section

variable {α : Type} [Wire α] {v : α}

theorem decode_eq_ok_iff {s : String} :
    decode s = .ok v ↔ Wire.read maxDepth (Text.ofChars s.toList).root = .ok v ∧
      (Text.ofChars s.toList).complete = true := by
  unfold decode Text.decode
  rw [bind_eq_ok_iff]
  constructor
  · rintro ⟨w, hw, h⟩
    split at h
    · next hcomplete =>
      cases h
      exact ⟨hw, hcomplete⟩
    · cases h
  · rintro ⟨hv, hcomplete⟩
    exact ⟨v, hv, if_pos hcomplete⟩

/-- The text of a value is read as the document of the value is. -/
theorem decode_toText_iff {a : Json} (h : a.HasLongs) :
    decode a.toText = .ok v ↔ Wire.read maxDepth (.ofJson a) = .ok v := by
  rw [decode_eq_ok_iff, toText, String.toList_ofList, Text.ofChars_render h]
  exact and_iff_left rfl

end

/-! ## Reading `null` -/

theorem Document.toJson_eq_null_iff {depth : Nat} {d : Document} :
    d.toJson depth = .ok .null ↔ d = .null := by
  refine ⟨fun h => ?_, fun h => by rw [h, toJson]⟩
  -- A value of any other kind is read as a value of that kind, if at all.
  cases d with
  | null => rfl
  | string t =>
    obtain ⟨_, -, hkind⟩ := map_eq_ok_iff.1 h
    cases hkind
  | list items =>
    cases depth with
    | zero => cases h
    | succ depth =>
      obtain ⟨_, -, hkind⟩ := map_eq_ok_iff.1 h
      cases hkind
  | object members =>
    cases depth with
    | zero => cases h
    | succ depth =>
      obtain ⟨_, -, hkind⟩ := map_eq_ok_iff.1 h
      cases hkind
  | bool b => cases h
  | number n => cases h
  | overlarge => cases h
  | malformed f => cases h
  | missing => cases h

theorem read_unit_eq_ok_iff {depth : Nat} {d : Document} {v : Unit} :
    Wire.read depth d = .ok v ↔ d = .null := by
  refine ⟨fun h => ?_, fun h => by rw [h]; rfl⟩
  cases d with
  | null => rfl
  | _ => cases h

theorem read_json_eq_null_iff {depth : Nat} {d : Document} :
    Wire.read depth d = .ok Json.null ↔ d = .null :=
  mapError_eq_ok_iff.trans Document.toJson_eq_null_iff

/-- What is read as the unit value is what is read as the value `null`. -/
theorem decode_unit_eq_ok_iff {s : String} {v : Unit} :
    decode s = .ok v ↔ decode s = .ok Json.null := by
  rw [decode_eq_ok_iff, decode_eq_ok_iff, read_unit_eq_ok_iff, read_json_eq_null_iff]

/-- What can be read from no `null` is not read from a text that says `null`. -/
theorem decode_ne_ok_of_null {α : Type} [Wire α] {s : String}
    (hs : decode s = .ok Json.null) (hα : ∀ v : α, Wire.read maxDepth .null ≠ .ok v) (v : α) :
    decode s ≠ .ok v := by
  intro h
  rw [decode_eq_ok_iff, read_json_eq_null_iff] at hs
  rw [decode_eq_ok_iff, hs.1] at h
  exact hα v h.1

theorem read_null_ne_of_record {α : Type} [Record α] (v : α) :
    Wire.read maxDepth .null ≠ .ok v := by
  intro h
  cases h

theorem read_null_ne_of_flattened {α ι : Type} [Record ι] [Flattened α ι] (v : α) :
    Wire.read maxDepth .null ≠ .ok v := by
  intro h
  cases h

theorem read_null_ne_of_list {α : Type} [Wire α] (vs : List α) :
    Wire.read maxDepth .null ≠ .ok vs := by
  intro h
  cases h

theorem decode_null : decode "null" = .ok Json.null :=
  (decode_toText_iff HasLongs.null).2 rfl

end WebhookClient.Json
