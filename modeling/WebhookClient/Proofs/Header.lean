import Mathlib
import WebhookClient.Header

/-!
# Values of headers

What stands under a name after the lines of other headers have been set one by one.
-/

set_option autoImplicit false

namespace WebhookClient.Headers

variable {name : HeaderName}

theorem get_cons (l : HeaderName × HeaderValue) (ls : List (HeaderName × HeaderValue))
    (name : HeaderName) :
    (⟨l :: ls⟩ : Headers).get name =
      if l.1 = name then l.2 :: (⟨ls⟩ : Headers).get name else (⟨ls⟩ : Headers).get name := by
  unfold get
  by_cases h : l.1 = name
  · simp [h]
  · simp [h]

theorem setAll_cons (h : Headers) (l : HeaderName × HeaderValue)
    (ls : List (HeaderName × HeaderValue)) :
    h.setAll ⟨l :: ls⟩ = (h.set l.1 l.2).setAll ⟨ls⟩ := rfl

theorem setAll_setAll (h a b : Headers) :
    (h.setAll a).setAll b = h.setAll ⟨a.lines ++ b.lines⟩ := List.foldl_append.symm

/-- Setting the lines of others leaves the last of their values under each name; a name that they
do not have keeps its values. -/
theorem get_setAll (h others : Headers) (name : HeaderName) :
    (h.setAll others).get name = (others.get name).getLast?.elim (h.get name) ([·]) := by
  obtain ⟨ls⟩ := others
  induction ls generalizing h with
  | nil => rfl
  | cons l ls ih =>
    rw [setAll_cons, ih, get_cons]
    by_cases hl : l.1 = name
    · rw [if_pos hl, ← hl, get_set_self]
      cases hrest : (⟨ls⟩ : Headers).get l.1 with
      | nil => rfl
      | cons v vs =>
        rw [List.getLast?_cons_cons]
        obtain ⟨w, hw⟩ := Option.ne_none_iff_exists'.1
          (mt List.getLast?_eq_none_iff.1 (List.cons_ne_nil v vs))
        rw [hw]
        rfl
    · rw [if_neg hl, get_set_of_ne (Ne.symm hl)]

/-- Where no name has more than one value, that of the lines that are set comes before the one that
they are set in place of. -/
theorem map_text_elim_getLast? {values others : List HeaderValue} {v w : Option String}
    (hv : values.map (·.text) = v.toList) (hw : others.map (·.text) = w.toList) :
    (values.getLast?.elim others ([·])).map (·.text) = (v.or w).toList := by
  cases v with
  | none =>
    rw [List.map_eq_nil_iff.1 hv]
    exact hw
  | some t =>
    obtain ⟨x, rfl, rfl⟩ := List.map_eq_singleton_iff.1 hv
    rfl

/-- Values that have been added to others, and then replaced if one is set, are what is left if
there were no others and none is set, or if the one that is set is the same. -/
theorem elim_getLast?_eq_iff {values others own : List HeaderValue} (h : values.length ≤ 1) :
    values.getLast?.elim (others ++ own) ([·]) = own ↔
      if values = [] then others = [] else values = own := by
  match values, h with
  | [], _ =>
    rw [if_pos rfl]
    exact List.append_left_eq_self
  | [v], _ =>
    rw [if_neg (List.cons_ne_nil v [])]
    exact Iff.rfl

end WebhookClient.Headers
