import Mathlib
import WebhookClient.Operation.Basic
import WebhookClient.Proofs.Instant.Text
import WebhookClient.Proofs.Text.Decimal

/-!
# Options tell themselves in the query

The options of an operation can be read off the pairs that they put into the query, up to what
never gets there: an empty list of texts counts as none, and an option that is not sent does not
count. Main statement: `Choices.same_of_texts_eq`.
-/

set_option autoImplicit false

namespace WebhookClient

open Json

/-! ## One option -/

namespace OptionKind

/-- Two values of an option that the service cannot tell apart. -/
def Same : (k : OptionKind) → k.Value → k.Value → Prop
  | .texts, v, w => v.getD [] = w.getD []
  | .unsent, _, _ => True
  | .text, v, w => v = w
  | .count, v, w => v = w
  | .flag, v, w => v = w
  | .order, v, w => v = w
  | .time, v, w => v = w
  | .status, v, w => v = w
  | .statusClass, v, w => v = w

/-- A value that may be missing is told by its text, if the texts of all values differ. -/
theorem eq_of_map_toText_eq {α : Type} (make : α → QueryValue)
    (hmake : ∀ {a b}, (make a).toText = (make b).toText → a = b) {v w : Option α}
    (h : (v.map make).toList.map QueryValue.toText = (w.map make).toList.map QueryValue.toText) :
    v = w := by
  cases v with
  | none =>
    cases w with
    | none => rfl
    | some b => cases h
  | some a =>
    cases w with
    | none => cases h
    | some b => rw [hmake (List.cons.inj h).1]

/-- The value of an option is told by what it puts into the query. -/
theorem same_of_toText_eq (k : OptionKind) {v w : k.Value}
    (h : (k.queryValues v).map QueryValue.toText = (k.queryValues w).map QueryValue.toText) :
    k.Same v w := by
  cases k with
  | text => exact eq_of_map_toText_eq .text (fun hab => hab) h
  | count =>
    refine eq_of_map_toText_eq (fun n : Bounded .u64 => .int n.value) (fun hab => ?_) h
    exact Bounded.value_injective (Decimal.intText_injective hab)
  | flag =>
    refine eq_of_map_toText_eq .flag (fun {a b} hab => ?_) h
    cases a <;> cases b <;> first | rfl | exact absurd hab (by decide)
  | order => exact eq_of_map_toText_eq .order (fun hab => Named.name_injective _ _ hab) h
  | time => exact eq_of_map_toText_eq .time (fun hab => Instant.toText_injective hab) h
  | status =>
    refine eq_of_map_toText_eq .status (fun hab => Coded.code_injective _ _ ?_) h
    exact Bounded.value_injective (Decimal.intText_injective hab)
  | statusClass =>
    refine eq_of_map_toText_eq .statusClass (fun hab => Coded.code_injective _ _ ?_) h
    exact Bounded.value_injective (Decimal.intText_injective hab)
  | texts =>
    show v.getD [] = w.getD []
    have hmap : ∀ l : List String, (l.map QueryValue.text).map QueryValue.toText = l := by
      intro l
      rw [List.map_map]
      exact List.map_id l
    rw [← hmap (v.getD []), ← hmap (w.getD [])]
    exact h
  | unsent => trivial

end OptionKind

/-! ## All options of an operation -/

namespace Choices

/-- Two choices that the service cannot tell apart. -/
def Same : (os : List QueryOption) → Choices os → Choices os → Prop
  | [], (), () => True
  | o :: os, (v, vs), (w, ws) => o.kind.Same v w ∧ Same os vs ws

/-- The pairs as they stand in the query. -/
def texts (os : List QueryOption) (c : Choices os) : List (String × String) :=
  (pairs os c).map fun p => (p.1, p.2.toText)

theorem texts_cons (o : QueryOption) (os : List QueryOption) (v : o.kind.Value)
    (vs : Choices os) :
    texts (o :: os) (v, vs) =
      ((o.kind.queryValues v).map QueryValue.toText).map (o.name, ·) ++ texts os vs := by
  unfold texts
  rw [pairs, List.map_append, List.map_map, List.map_map]
  rfl

theorem name_mem_of_mem_texts {os : List QueryOption} {c : Choices os} {p : String × String}
    (h : p ∈ texts os c) : p.1 ∈ os.map (·.name) := by
  induction os with
  | nil => cases h
  | cons o os ih =>
    obtain ⟨v, vs⟩ := c
    rw [texts_cons] at h
    rcases List.mem_append.1 h with h | h
    · obtain ⟨t, -, rfl⟩ := List.mem_map.1 h
      exact List.mem_cons_self
    · exact List.mem_cons_of_mem _ (ih h)

/-- Options of distinct names are told by the pairs in the query. -/
theorem same_of_texts_eq {os : List QueryOption} (hnames : (os.map (·.name)).Nodup)
    {c d : Choices os} (h : texts os c = texts os d) : Same os c d := by
  induction os with
  | nil => trivial
  | cons o os ih =>
    obtain ⟨v, vs⟩ := c
    obtain ⟨w, ws⟩ := d
    obtain ⟨hname, hnames⟩ := List.nodup_cons.1 hnames
    -- The pairs of the first option are those of its name.
    have hfirst : ∀ (ts : List String) (us : Choices os),
        (ts.map ((o.name, ·)) ++ texts os us).filter (fun p => p.1 = o.name) =
          ts.map (o.name, ·) := by
      intro ts us
      have hlater : (texts os us).filter (fun p => p.1 = o.name) = [] := by
        rw [List.filter_eq_nil_iff]
        intro p hp hpo
        have hmem := name_mem_of_mem_texts hp
        rw [of_decide_eq_true hpo] at hmem
        exact hname hmem
      rw [List.filter_append, hlater, List.append_nil, List.filter_eq_self]
      intro p hp
      obtain ⟨t, -, rfl⟩ := List.mem_map.1 hp
      exact decide_eq_true rfl
    rw [texts_cons, texts_cons] at h
    have hhead := hfirst ((o.kind.queryValues v).map QueryValue.toText) vs
    rw [h, hfirst] at hhead
    rw [hhead] at h
    have hpair : Function.Injective fun t : String => (o.name, t) := by
      intro s t hst
      exact (Prod.mk.inj hst).2
    refine ⟨?_, ih hnames (List.append_cancel_left h)⟩
    exact o.kind.same_of_toText_eq (List.map_injective_iff.2 hpair hhead.symm)

/-! ## Setting one option -/

section

variable {os : List QueryOption} {name : String} (new : Option String) (c : Choices os)

theorem filter_map_pair (name k : String) (ts : List String) :
    (ts.map (k, ·)).filter (·.1 = name) = if k = name then ts.map (k, ·) else [] := by
  split_ifs with hk
  · exact List.filter_eq_self.2 (List.forall_mem_map.2 fun t _ => decide_eq_true hk)
  · exact List.filter_eq_nil_iff.2 (List.forall_mem_map.2 fun t _ => by simpa using hk)

theorem filter_texts_of_not_mem (h : name ∉ os.map (·.name)) :
    (texts os c).filter (·.1 = name) = [] := by
  refine List.filter_eq_nil_iff.2 fun p hp hname => h ?_
  rw [← of_decide_eq_true hname]
  exact name_mem_of_mem_texts hp

/-- The pair of an option that is set to a text has that text, and there is none if it is set to
nothing. -/
theorem filter_texts_setText (hnames : (os.map (·.name)).Nodup) (hmem : ⟨name, .text⟩ ∈ os) :
    (texts os (setText name new os c)).filter (·.1 = name) = new.toList.map (name, ·) := by
  induction os with
  | nil => cases hmem
  | cons o os ih =>
    obtain ⟨v, vs⟩ := c
    obtain ⟨hname, hnames⟩ := List.nodup_cons.1 hnames
    rw [setText, texts_cons, List.filter_append, filter_map_pair]
    obtain rfl | hmem := List.mem_cons.1 hmem
    · rw [if_pos rfl, if_pos rfl, filter_texts_of_not_mem (setText name new os vs) hname,
        List.append_nil]
      cases new <;> rfl
    · have hne : o.name ≠ name := by
        rintro rfl
        exact hname (List.mem_map.2 ⟨_, hmem, rfl⟩)
      rw [if_neg hne, ih vs hnames hmem, List.nil_append]

/-- The pairs of all other options stay. -/
theorem filter_ne_texts_setText :
    (texts os (setText name new os c)).filter (·.1 ≠ name) =
      (texts os c).filter (·.1 ≠ name) := by
  induction os with
  | nil => rfl
  | cons o os ih =>
    obtain ⟨v, vs⟩ := c
    rw [setText, texts_cons, texts_cons, List.filter_append, List.filter_append, ih]
    by_cases hname : o.name = name
    · have hnone : ∀ ts : List String, (ts.map (o.name, ·)).filter (·.1 ≠ name) = [] := by
        intro ts
        exact List.filter_eq_nil_iff.2 (List.forall_mem_map.2 fun t _ => by simpa using hname)
      rw [hnone, hnone]
    · rw [if_neg hname]

end

end Choices

end WebhookClient
