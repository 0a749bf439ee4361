import Mathlib
import WebhookClient.Proofs.Header
import WebhookClient.Proofs.Json.Dict

/-!
# Headers as they are given

A header is given as two texts, its name and its value, and the case of the letters of the name
does not count. Where headers that can be read are set one after the other, the one that is given
last for a name counts. Main statement: `map_text_get_setAll`.
-/

set_option autoImplicit false

namespace WebhookClient

/-! ## Names in any spelling -/

/-- A text that names a header. -/
def HeaderName.IsSpelt (name : HeaderName) (s : String) : Prop :=
  s.toList.map Char.toLower = name.text.toList

instance (name : HeaderName) : DecidablePred name.IsSpelt := fun _ =>
  inferInstanceAs (Decidable (_ = _))

theorem HeaderName.ofText_eq_ok_iff {s : String} {name : HeaderName} :
    HeaderName.ofText s = .ok name ↔ name.IsSpelt s := by
  obtain ⟨text, valid⟩ := name
  unfold HeaderName.ofText HeaderName.IsSpelt
  constructor
  · intro h
    split at h
    · cases h
      exact String.toList_ofList.symm
    · cases h
  · intro h
    have htext : String.ofList (s.toList.map Char.toLower) = text := by
      rw [h, String.ofList_toList]
    subst htext
    exact dif_pos valid

namespace Header

/-- A line that is read from the two texts of a header. -/
def IsRead (g : String × String) (l : HeaderName × HeaderValue) : Prop :=
  HeaderName.ofText g.1 = .ok l.1 ∧ HeaderValue.ofText g.2 = .ok l.2

/-- The value that is given last for a name, in whatever spelling. -/
def lastFor (name : HeaderName) (given : List (String × String)) : Option String :=
  lastWhere name.IsSpelt given

variable {given : List (String × String)} {lines : List (HeaderName × HeaderValue)}

/-- Under a name stand the values that are given for it, in their order. -/
theorem map_text_get (h : List.Forall₂ IsRead given lines) (name : HeaderName) :
    ((⟨lines⟩ : Headers).get name).map (·.text) =
      (given.filter fun g => name.IsSpelt g.1).map (·.2) := by
  induction h with
  | nil => rfl
  | @cons g l given lines hread _ ih =>
    obtain ⟨hname, hvalue⟩ := hread
    have hspelt : name.IsSpelt g.1 ↔ l.1 = name := by
      rw [← HeaderName.ofText_eq_ok_iff, hname, Except.ok.injEq]
    rw [Headers.get_cons]
    by_cases hl : l.1 = name
    · rw [if_pos hl, List.filter_cons_of_pos (by simpa using hspelt.2 hl), List.map_cons,
        List.map_cons, ih, HeaderValue.text_of_ofText hvalue]
    · rw [if_neg hl, List.filter_cons_of_neg (by simpa using mt hspelt.1 hl), ih]

/-- Setting the lines that are read leaves the value that is given last for each name; a name
without a value keeps what it has. -/
theorem map_text_get_setAll (h : List.Forall₂ IsRead given lines) (hs : Headers)
    (name : HeaderName) :
    ((hs.setAll ⟨lines⟩).get name).map (·.text) =
      (lastFor name given).elim ((hs.get name).map (·.text)) ([·]) := by
  have hlast : lastFor name given = ((⟨lines⟩ : Headers).get name).getLast?.map (·.text) := by
    rw [lastFor, lastWhere, ← List.getLast?_map, ← List.getLast?_map, map_text_get h]
  rw [Headers.get_setAll, hlast]
  cases ((⟨lines⟩ : Headers).get name).getLast? <;> rfl

theorem map_text_get_setAll_empty (h : List.Forall₂ IsRead given lines) (name : HeaderName) :
    ((Headers.empty.setAll ⟨lines⟩).get name).map (·.text) = (lastFor name given).toList := by
  rw [map_text_get_setAll h]
  cases lastFor name given <;> rfl

end Header

end WebhookClient
