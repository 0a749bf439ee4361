import Mathlib
import WebhookClient.Json.Enumeration
import WebhookClient.Proofs.Except

/-!
# Closed sets and their labels

The values of a closed set are found by their labels: by name, by word or by code. They are read
from a string that is their name, or from the integer that is their code.
-/

set_option autoImplicit false

namespace WebhookClient.Json

/-! ## Labels -/

/-- The first value of a label is the one value that has it. -/
theorem find?_label_eq_some_iff {α β : Type} [DecidableEq β] {all : List α} {label : α → β}
    (hall : ∀ a, a ∈ all) (hinjective : ∀ a b, label a = label b → a = b) {a : α} {b : β} :
    (all.find? fun x => label x = b) = some a ↔ label a = b := by
  constructor
  · intro h
    simpa using List.find?_some h
  · rintro rfl
    cases hfind : all.find? fun x => label x = label a with
    | none => exact absurd (decide_eq_true rfl) (List.find?_eq_none.1 hfind a (hall a))
    | some x =>
      have hlabel : label x = label a := by simpa using List.find?_some hfind
      rw [hinjective x a hlabel]

section

variable {α : Type} {a : α}

theorem ofName?_eq_some_iff [Named α] {s : String} :
    Named.ofName? s = some a ↔ Named.name a = s :=
  find?_label_eq_some_iff Named.mem_all Named.name_injective

theorem ofWord?_eq_some_iff [Worded α] {s : String} :
    Worded.ofWord? s = some a ↔ Worded.word a = s :=
  find?_label_eq_some_iff Worded.mem_all Worded.word_injective

theorem ofCode?_eq_some_iff [Coded α] {c : Bounded .i16} :
    Coded.ofCode? c = some a ↔ Coded.code a = c :=
  find?_label_eq_some_iff Coded.mem_all Coded.code_injective

end

/-! ## Reading -/

theorem get_eq_ok_iff {α : Type} [Named α] {s : String} {a : α} :
    Named.get s = .ok a ↔ Named.name a = s := by
  rw [← ofName?_eq_some_iff, Named.get]
  cases Named.ofName? (α := α) s <;> simp

/-- A value with a name is read from the string that is its name. -/
theorem read_named_string_iff {α : Type} [Named α] {depth : Nat} {t : StringToken} {a : α} :
    Wire.read depth (.string t) = .ok a ↔ t = .plain (Named.name a) := by
  cases t with
  | plain s => exact get_eq_ok_iff.trans (by rw [StringToken.plain.injEq, eq_comm])
  | unreadable e => exact iff_of_false (fun h => by cases h) (fun h => by cases h)
  | broken f => exact iff_of_false (fun h => by cases h) (fun h => by cases h)

/-- A bounded integer is read from the integer itself. -/
theorem read_bounded_eq_ok_iff {w : Width} {depth : Nat} {d : Document} {b : Bounded w} :
    Wire.read depth d = .ok b ↔ d = .number (.int b.value) := by
  constructor
  · intro h
    cases d with
    | number n =>
      cases n with
      | int i =>
        dsimp only [Wire.read] at h
        unfold Bounded.ofInt? at h
        split_ifs at h
        cases h
        rfl
      | float x => cases h
    | _ => cases h
  · rintro rfl
    dsimp only [Wire.read]
    rw [Bounded.ofInt?_value]

/-- A value with a code is read from the code. -/
theorem read_coded_eq_ok_iff {α : Type} [Coded α] {depth : Nat} {d : Document} {a : α} :
    Wire.read depth d = .ok a ↔ d = .number (.int (Coded.code a).value) := by
  constructor
  · intro h
    obtain ⟨c, hc, h⟩ := bind_eq_ok_iff.1 h
    cases hcode : Coded.ofCode? (α := α) c with
    | none =>
      rw [hcode] at h
      cases h
    | some b =>
      rw [hcode] at h
      cases h
      rw [Coded.code_of_ofCode? hcode]
      exact read_bounded_eq_ok_iff.1 hc
  · intro h
    refine bind_eq_ok_iff.2 ⟨Coded.code a, read_bounded_eq_ok_iff.2 h, ?_⟩
    rw [Coded.ofCode?_code]

end WebhookClient.Json
