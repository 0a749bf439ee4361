import Mathlib
import WebhookClient.Json.Dict

/-!
# Dictionaries of inserted values

What stands in a dictionary into which values have been inserted one after the other: under each
name the value that was given last for it. Main statements: `get?_foldl_insert`, and
`lastWhere_foldl_insert` for the names with a property.
-/

set_option autoImplicit false

namespace WebhookClient

variable {α : Type}

/-! ## Last values -/

/-- The value that is given last under a name with a property. -/
def lastWhere (p : String → Prop) [DecidablePred p] (es : List (String × α)) : Option α :=
  ((es.filter fun e => p e.1).getLast?).map (·.2)

section

variable {p : String → Prop} [DecidablePred p] {es : List (String × α)}

theorem lastWhere_cons (e : String × α) (es : List (String × α)) :
    lastWhere p (e :: es) = (lastWhere p es).or (if p e.1 then some e.2 else none) := by
  unfold lastWhere
  by_cases he : p e.1
  · rw [List.filter_cons_of_pos (by simpa using he), if_pos he, List.getLast?_cons]
    cases (es.filter fun e => p e.1).getLast? <;> rfl
  · rw [List.filter_cons_of_neg (by simpa using he), if_neg he, Option.or_none]

theorem exists_mem_of_lastWhere {v : α} (h : lastWhere p es = some v) :
    ∃ e ∈ es, p e.1 ∧ e.2 = v := by
  obtain ⟨e, he, rfl⟩ := Option.map_eq_some_iff.1 h
  obtain ⟨hmem, hp⟩ := List.mem_filter.1 (List.mem_of_getLast? he)
  exact ⟨e, hmem, of_decide_eq_true hp, rfl⟩

theorem lastWhere_eq_none_iff : lastWhere p es = none ↔ ∀ e ∈ es, ¬ p e.1 := by
  rw [lastWhere, Option.map_eq_none_iff, List.getLast?_eq_none_iff, List.filter_eq_nil_iff]
  refine forall₂_congr fun e _ => ?_
  rw [decide_eq_true_eq]

theorem isSome_lastWhere_eq_iff {name : String} :
    (lastWhere (· = name) es).isSome ↔ name ∈ es.map (·.1) := by
  rw [Option.isSome_iff_ne_none, ne_eq, lastWhere_eq_none_iff]
  simp only [not_forall, not_not, List.mem_map, exists_prop]

end

namespace Dict

/-! ## Names and values -/

theorem lookup_eq_some_iff {ms : List (String × α)} (h : ms.Pairwise fun a b => a.1 < b.1)
    {name : String} {v : α} : Json.lookup name ms = some v ↔ (name, v) ∈ ms := by
  induction ms with
  | nil => simp [Json.lookup]
  | cons m rest ih =>
    obtain ⟨k, w⟩ := m
    obtain ⟨hk, hrest⟩ := List.pairwise_cons.1 h
    by_cases hkn : k = name
    · subst hkn
      have hnot : (k, v) ∉ rest := fun hmem => lt_irrefl k (hk _ hmem)
      simp [Json.lookup, hnot, eq_comm]
    · have hcons : Json.lookup name ((k, w) :: rest) = Json.lookup name rest := by
        simp [Json.lookup, hkn]
      rw [hcons, ih hrest, List.mem_cons, Prod.mk.injEq]
      simp [Ne.symm hkn]

theorem get?_eq_some_iff {d : Dict α} {name : String} {v : α} :
    d.get? name = some v ↔ (name, v) ∈ d.entries :=
  lookup_eq_some_iff d.sorted

/-- Of the names with a property the greatest one comes last. -/
theorem lastWhere_entries {d : Dict α} {p : String → Prop} [DecidablePred p] {name : String}
    (h : IsGreatest {s | p s ∧ (d.get? s).isSome} name) : lastWhere p d.entries = d.get? name := by
  obtain ⟨⟨hp, hsome⟩, hmax⟩ := h
  obtain ⟨v, hv⟩ := Option.isSome_iff_exists.1 hsome
  have hmem : (name, v) ∈ d.entries.filter fun e => p e.1 :=
    List.mem_filter.2 ⟨get?_eq_some_iff.1 hv, decide_eq_true hp⟩
  obtain ⟨e, he⟩ := Option.ne_none_iff_exists'.1
    (mt List.getLast?_eq_none_iff.1 (List.ne_nil_of_mem hmem))
  obtain ⟨hentry, hpe⟩ := List.mem_filter.1 (List.mem_of_getLast? he)
  have hget : d.get? e.1 = some e.2 := get?_eq_some_iff.2 hentry
  -- The last of the sorted entries has a name that is not less than any other.
  have hle : name ≤ e.1 := by
    have hsorted := d.sorted.sublist (List.filter_sublist (p := fun e => decide (p e.1)))
    rw [← List.dropLast_append_getLast? e he] at hmem hsorted
    rcases List.mem_append.1 hmem with hfront | hlast
    · exact ((List.pairwise_append.1 hsorted).2.2 _ hfront _ List.mem_cons_self).le
    · rw [← List.mem_singleton.1 hlast]
  have hge : e.1 ≤ name := hmax ⟨of_decide_eq_true hpe, by rw [hget]; rfl⟩
  rw [lastWhere, he, ← le_antisymm hge hle, hget]
  rfl

/-! ## Inserting values one after the other -/

/-- After values have been inserted one after the other, the last one for a name is found. -/
theorem get?_foldl_insert (es : List (String × α)) (d : Dict α) (name : String) :
    (es.foldl (fun d e => d.insert e.1 e.2) d).get? name =
      (lastWhere (· = name) es).or (d.get? name) := by
  induction es generalizing d with
  | nil => rfl
  | cons e es ih =>
    rw [List.foldl_cons, ih, lastWhere_cons, Option.or_assoc]
    by_cases he : e.1 = name
    · rw [if_pos he, ← he, get?_insert_self]
      rfl
    · rw [if_neg he, get?_insert_of_ne (Ne.symm he)]
      rfl

/-- Of entries with distinct names each is found after all have been inserted. -/
theorem get?_foldl_insert_of_mem {es : List (String × α)} {e : String × α}
    (hnames : (es.map (·.1)).Nodup) (he : e ∈ es) (d : Dict α) :
    (es.foldl (fun d e => d.insert e.1 e.2) d).get? e.1 = some e.2 := by
  obtain ⟨v, hv⟩ := Option.isSome_iff_exists.1
    (isSome_lastWhere_eq_iff.2 (List.mem_map_of_mem (f := (·.1)) he))
  obtain ⟨e', he', hname, rfl⟩ := exists_mem_of_lastWhere hv
  rw [get?_foldl_insert, hv, List.inj_on_of_nodup_map hnames he' he hname]
  rfl

variable {es : List (String × α)}

theorem get?_ofInserted (es : List (String × α)) (name : String) :
    (es.foldl (fun d e => d.insert e.1 e.2) (empty : Dict α)).get? name =
      lastWhere (· = name) es := by
  rw [get?_foldl_insert, get?_empty, Option.or_none]

/-- Of the names with a property that values are inserted for, the greatest one comes last, with
the value that is given last for it. -/
theorem lastWhere_foldl_insert {p : String → Prop} [DecidablePred p] {name : String}
    (h : IsGreatest {s | p s ∧ s ∈ es.map (·.1)} name) :
    lastWhere p (es.foldl (fun d e => d.insert e.1 e.2) (empty : Dict α)).entries =
      lastWhere (· = name) es := by
  rw [← get?_ofInserted]
  refine lastWhere_entries ?_
  simpa only [get?_ofInserted, isSome_lastWhere_eq_iff] using h

/-- What is inserted under the names of a dictionary was given for them. -/
theorem mem_of_mem_entries_foldl_insert {e : String × α}
    (he : e ∈ (es.foldl (fun d e => d.insert e.1 e.2) (empty : Dict α)).entries) : e ∈ es := by
  rw [← get?_eq_some_iff, get?_ofInserted] at he
  obtain ⟨e', he', hname, hvalue⟩ := exists_mem_of_lastWhere he
  rwa [← Prod.ext hname hvalue]

end Dict

end WebhookClient
