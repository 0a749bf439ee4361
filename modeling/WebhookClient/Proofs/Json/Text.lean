import Mathlib
import WebhookClient.Proofs.Json.Number
import WebhookClient.Proofs.Json.StringToken

/-!
# The text of a value tells the value

Two JSON values with the same compact text are the same, the spelling of numbers and the order of
members included. The first character of a value tells its kind, and each kind tells where it
ends. Main statements: `Json.render_append_injective` and `Json.toText_injective`.
-/

set_option autoImplicit false

namespace WebhookClient.Json

/-! ## Kinds -/

/-- The kinds of values that a first character tells apart. -/
inductive Kind where
  | null
  | bool
  | number
  | string
  | list
  | object
deriving DecidableEq

def kind : Json → Kind
  | .null => .null
  | .bool _ => .bool
  | .number _ => .number
  | .string _ => .string
  | .list _ => .list
  | .object _ => .object

/-- The kind of the values that start with a character. -/
def kindOfLead? (c : Char) : Option Kind :=
  if c = 'n' then some .null
  else if c = 't' ∨ c = 'f' then some .bool
  else if c = '-' ∨ c.isDigit then some .number
  else if c = '"' then some .string
  else if c = '[' then some .list
  else if c = '\x7b' then some .object
  else none

theorem kindOfLead?_isDigit {c : Char} (h : c.isDigit = true) : kindOfLead? c = some .number := by
  have hn : c ≠ 'n' := by
    rintro rfl
    exact absurd h (by decide)
  have htf : ¬ (c = 't' ∨ c = 'f') := by
    rintro (rfl | rfl) <;> exact absurd h (by decide)
  unfold kindOfLead?
  rw [if_neg hn, if_neg htf, if_pos (.inr h)]

/-- A numeral starts with a sign or a digit. -/
theorem Numeral.Spells.lead {n : Numeral} {cs : List Char} (h : n.Spells cs) :
    ∃ c rest, cs = c :: rest ∧ kindOfLead? c = some .number := by
  obtain ⟨hn, es, -, rfl⟩ := h
  obtain ⟨hne, hdigits⟩ := hn.whole
  obtain ⟨d, ds, hd⟩ := List.exists_cons_of_ne_nil hne
  by_cases hneg : n.negative
  · rw [if_pos hneg]
    exact ⟨'-', _, rfl, by decide⟩
  · rw [if_neg hneg, hd]
    exact ⟨d, _, rfl, kindOfLead?_isDigit (hdigits d (by rw [hd]; exact List.mem_cons_self))⟩

theorem lead_toChars {n : Numeral} (hn : n.IsWellFormed) :
    ∃ c cs, n.toChars = c :: cs ∧ kindOfLead? c = some .number :=
  (Numeral.spells_toChars hn).lead

/-- The first character of a value tells its kind. -/
theorem lead_render (a : Json) : ∃ c cs, render a = c :: cs ∧ kindOfLead? c = some (kind a) := by
  cases a with
  | null => exact ⟨'n', _, rfl, by decide⟩
  | bool b =>
    cases b with
    | true => exact ⟨'t', _, rfl, by decide⟩
    | false => exact ⟨'f', _, rfl, by decide⟩
  | number n =>
    have h := lead_toChars (Numeral.isWellFormed_ofNumber n)
    rw [Numeral.toChars_ofNumber] at h
    exact h
  | string s => exact ⟨'"', _, rfl, rfl⟩
  | list items => exact ⟨'[', _, rfl, rfl⟩
  | object members => exact ⟨'\x7b', _, rfl, rfl⟩

theorem kind_eq_of_render_append {a b : Json} {r s : List Char}
    (h : render a ++ r = render b ++ s) : kind a = kind b := by
  obtain ⟨c, cs, hc, hkc⟩ := lead_render a
  obtain ⟨d, ds, hd, hkd⟩ := lead_render b
  rw [hc, hd, List.cons_append, List.cons_append, List.cons.injEq] at h
  rw [h.1, hkd, Option.some.injEq] at hkc
  exact hkc.symm

/-- No value starts with a closing bracket. -/
theorem render_append_ne_bracket (a : Json) (r s : List Char) :
    render a ++ r ≠ ']' :: s := by
  intro h
  obtain ⟨c, cs, hc, hkc⟩ := lead_render a
  rw [hc, List.cons_append, List.cons.injEq] at h
  rw [h.1] at hkc
  exact absurd hkc (by simp [kindOfLead?])

/-! ## What ends a value -/

/-- The character ends a value within a list or an object. -/
def endsValue (c : Char) : Bool := c = ',' || c = ']' || c = '\x7d'

theorem all_endsNumber {r : List Char} (h : r.head?.all endsValue) :
    r.head?.all Numeral.endsNumber := by
  cases r with
  | nil => rfl
  | cons c cs =>
    have hc : (decide (c = ',') || decide (c = ']') || decide (c = '\x7d')) = true := h
    simp only [Bool.or_eq_true, decide_eq_true_eq] at hc
    rcases hc with (rfl | rfl) | rfl <;> rfl

/-- What follows the first item of a list. -/
def itemsTail : List Json → List Char
  | [] => [']']
  | b :: bs => ',' :: renderItems (b :: bs)

theorem renderItems_cons (a : Json) (as : List Json) :
    renderItems (a :: as) = render a ++ itemsTail as := by
  cases as <;> rfl

theorem all_endsValue_itemsTail (as : List Json) (r : List Char) :
    (itemsTail as ++ r).head?.all endsValue := by
  cases as <;> rfl

/-- What follows the first member of an object. -/
def membersTail : List (String × Json) → List Char
  | [] => ['\x7d']
  | m :: ms => ',' :: renderMembers (m :: ms)

theorem renderMembers_cons (k : String) (a : Json) (ms : List (String × Json)) :
    renderMembers ((k, a) :: ms) = renderString k ++ ':' :: (render a ++ membersTail ms) := by
  cases ms <;> rfl

theorem all_endsValue_membersTail (ms : List (String × Json)) (r : List Char) :
    (membersTail ms ++ r).head?.all endsValue := by
  cases ms <;> rfl

/-! ## Values apart -/

mutual

/-- Values whose texts agree up to what ends them are the same. -/
theorem render_append_injective : ∀ (a b : Json) {r s : List Char},
    r.head?.all endsValue → s.head?.all endsValue → render a ++ r = render b ++ s →
      a = b ∧ r = s
  | .null, b, r, s, _, _, h => by
    have hkind := kind_eq_of_render_append h
    cases b <;> try cases hkind
    exact ⟨rfl, List.append_cancel_left h⟩
  | .bool x, b, r, s, _, _, h => by
    have hkind := kind_eq_of_render_append h
    cases b <;> try cases hkind
    rename_i y
    cases x <;> cases y
    · exact ⟨rfl, List.append_cancel_left h⟩
    · exact absurd (List.cons.inj h).1 (by decide)
    · exact absurd (List.cons.inj h).1 (by decide)
    · exact ⟨rfl, List.append_cancel_left h⟩
  | .number m, b, r, s, hr, hs, h => by
    have hkind := kind_eq_of_render_append h
    cases b <;> try cases hkind
    obtain ⟨hmn, hrs⟩ :=
      Number.render_append_injective (all_endsNumber hr) (all_endsNumber hs) h
    exact ⟨congrArg Json.number hmn, hrs⟩
  | .string x, b, r, s, _, _, h => by
    have hkind := kind_eq_of_render_append h
    cases b <;> try cases hkind
    obtain ⟨hxy, hrs⟩ := renderString_append_injective h
    exact ⟨congrArg Json.string hxy, hrs⟩
  | .list as, b, r, s, _, _, h => by
    have hkind := kind_eq_of_render_append h
    cases b <;> try cases hkind
    obtain ⟨hab, hrs⟩ := renderItems_append_injective as _ (List.cons.inj h).2
    exact ⟨congrArg Json.list hab, hrs⟩
  | .object ms, b, r, s, _, _, h => by
    have hkind := kind_eq_of_render_append h
    cases b <;> try cases hkind
    obtain ⟨hab, hrs⟩ := renderMembers_append_injective ms _ (List.cons.inj h).2
    exact ⟨congrArg Json.object hab, hrs⟩

/-- Items whose texts agree up to their closing bracket are the same. -/
theorem renderItems_append_injective : ∀ (as bs : List Json) {r s : List Char},
    renderItems as ++ r = renderItems bs ++ s → as = bs ∧ r = s
  | [], [], r, s, h => ⟨rfl, (List.cons.inj h).2⟩
  | [], b :: bs, r, s, h => by
    rw [renderItems_cons, List.append_assoc] at h
    exact absurd h.symm (render_append_ne_bracket _ _ _)
  | a :: as, [], r, s, h => by
    rw [renderItems_cons, List.append_assoc] at h
    exact absurd h (render_append_ne_bracket _ _ _)
  | a :: as, b :: bs, r, s, h => by
    rw [renderItems_cons, renderItems_cons, List.append_assoc, List.append_assoc] at h
    obtain ⟨hab, htail⟩ := render_append_injective a b (all_endsValue_itemsTail as r)
      (all_endsValue_itemsTail bs s) h
    -- What follows the first item starts with a bracket or with a comma.
    match as, bs, htail with
    | [], [], htail => exact ⟨by rw [hab], (List.cons.inj htail).2⟩
    | [], _ :: _, htail => exact absurd (List.cons.inj htail).1 (by decide)
    | _ :: _, [], htail => exact absurd (List.cons.inj htail).1 (by decide)
    | a' :: as, b' :: bs, htail =>
      obtain ⟨hrest, hrs⟩ :=
        renderItems_append_injective (a' :: as) (b' :: bs) (List.cons.inj htail).2
      exact ⟨by rw [hab, hrest], hrs⟩

/-- Members whose texts agree up to their closing brace are the same. -/
theorem renderMembers_append_injective : ∀ (ms ns : List (String × Json)) {r s : List Char},
    renderMembers ms ++ r = renderMembers ns ++ s → ms = ns ∧ r = s
  | [], [], r, s, h => ⟨rfl, (List.cons.inj h).2⟩
  | [], (l, b) :: ns, r, s, h => by
    rw [renderMembers_cons] at h
    exact absurd (List.cons.inj h).1 (by decide)
  | (k, a) :: ms, [], r, s, h => by
    rw [renderMembers_cons] at h
    exact absurd (List.cons.inj h).1 (by decide)
  | (k, a) :: ms, (l, b) :: ns, r, s, h => by
    rw [renderMembers_cons, renderMembers_cons, List.append_assoc, List.append_assoc] at h
    -- The name ends at its quote, the value where the next member or the brace starts.
    obtain ⟨hkl, hvalue⟩ := renderString_append_injective h
    rw [List.cons_append, List.cons_append, List.cons.injEq, List.append_assoc,
      List.append_assoc] at hvalue
    obtain ⟨hab, htail⟩ := render_append_injective a b (all_endsValue_membersTail ms r)
      (all_endsValue_membersTail ns s) hvalue.2
    match ms, ns, htail with
    | [], [], htail => exact ⟨by rw [hkl, hab], (List.cons.inj htail).2⟩
    | [], _ :: _, htail => exact absurd (List.cons.inj htail).1 (by decide)
    | _ :: _, [], htail => exact absurd (List.cons.inj htail).1 (by decide)
    | m :: ms, n :: ns, htail =>
      obtain ⟨hrest, hrs⟩ :=
        renderMembers_append_injective (m :: ms) (n :: ns) (List.cons.inj htail).2
      exact ⟨by rw [hkl, hab, hrest], hrs⟩

end

/-- Two values with the same text are the same. -/
theorem toText_injective {a b : Json} (h : a.toText = b.toText) : a = b := by
  have hrender : render a ++ [] = render b ++ [] := by
    rw [List.append_nil, List.append_nil]
    exact String.ofList_injective h
  exact (render_append_injective a b rfl rfl hrender).1

end WebhookClient.Json
