import Mathlib
import WebhookClient.Json.Dict
import WebhookClient.Proofs.Json.Document

/-!
# The order of members and the depth of values

Members come out sorted by name, whatever their order was: `insertAll_eq_of_perm`. A value
`Reorders` to another one that differs from it in nothing but the order of members; both have the
same numbers and nest equally deep.
-/

set_option autoImplicit false

namespace WebhookClient.Json

/-! ## Members in order -/

section

variable {α : Type} {ms : List (String × α)}

/-- Members of distinct names in the order of the names. -/
def InOrder (ms : List (String × α)) : Prop := ms.Pairwise fun a b => a.1 < b.1

/-- The names of members. -/
def namesOf (ms : List (String × α)) : List String := ms.map (·.1)

theorem InOrder.nodup (h : InOrder ms) : (namesOf ms).Nodup :=
  (List.pairwise_map.2 h).imp ne_of_lt

/-- Members of distinct names can be put in order in one way only. -/
theorem InOrder.eq_of_perm {ns : List (String × α)} (hm : InOrder ms) (hn : InOrder ns)
    (h : ms.Perm ns) : ms = ns :=
  List.Perm.eq_of_pairwise (fun _ _ _ _ hlt hgt => absurd hgt (String.lt_asymm hlt)) hm hn h

theorem perm_insert {name : String} (value : α) (h : name ∉ namesOf ms) :
    (insert name value ms).Perm ((name, value) :: ms) := by
  induction ms with
  | nil => exact .refl _
  | cons m ms ih =>
    obtain ⟨k, v⟩ := m
    obtain ⟨hk, hms⟩ := not_or.1 (mt List.mem_cons.2 h)
    rw [insert, if_neg hk]
    split
    · exact .refl _
    · exact ((ih hms).cons (k, v)).trans (.swap _ _ _)

/-- Inserts members one after the other. -/
def insertAll (read ms : List (String × α)) : List (String × α) :=
  ms.foldl (fun read m => insert m.1 m.2 read) read

/-- Members of distinct names are sorted by inserting them. -/
theorem insertAll_eq_of_perm {sorted : List (String × α)} (hsorted : InOrder sorted)
    (read : List (String × α)) (hread : InOrder read) (h : (read ++ ms).Perm sorted) :
    insertAll read ms = sorted := by
  induction ms generalizing read with
  | nil =>
    rw [List.append_nil] at h
    exact hread.eq_of_perm hsorted h
  | cons m ms ih =>
    obtain ⟨k, v⟩ := m
    have hnames : (namesOf (read ++ (k, v) :: ms)).Perm (namesOf sorted) := h.map _
    have hnodup := hnames.nodup_iff.2 hsorted.nodup
    have hnew : k ∉ namesOf read := by
      rw [namesOf, List.map_append] at hnodup
      exact fun hk => (List.nodup_append.1 hnodup).2.2 k hk k List.mem_cons_self rfl
    refine ih (insert k v read) (pairwise_insert k v hread) (List.Perm.trans ?_ h)
    exact ((perm_insert v hnew).append_right ms).trans List.perm_middle.symm

end

/-! ## Sorted values -/

/-- The members of all objects stand in order. -/
inductive IsSorted : Json → Prop where
  | null : IsSorted .null
  | bool (b : Bool) : IsSorted (.bool b)
  | number (n : Number) : IsSorted (.number n)
  | string (s : String) : IsSorted (.string s)
  | list {items : List Json} : (∀ a ∈ items, IsSorted a) → IsSorted (.list items)
  | object {members : List (String × Json)} :
      InOrder members → (∀ m ∈ members, IsSorted m.2) → IsSorted (.object members)

/-! ## Depth -/

/-- Lists and objects nest at most so deep. -/
inductive FitsIn : Nat → Json → Prop where
  | null (depth : Nat) : FitsIn depth .null
  | bool (depth : Nat) (b : Bool) : FitsIn depth (.bool b)
  | number (depth : Nat) (n : Number) : FitsIn depth (.number n)
  | string (depth : Nat) (s : String) : FitsIn depth (.string s)
  | list {depth : Nat} {items : List Json} :
      (∀ a ∈ items, FitsIn depth a) → FitsIn (depth + 1) (.list items)
  | object {depth : Nat} {members : List (String × Json)} :
      (∀ m ∈ members, FitsIn depth m.2) → FitsIn (depth + 1) (.object members)

theorem fitsIn_list_iff {depth : Nat} {items : List Json} :
    FitsIn depth (.list items) ↔ ∃ d, depth = d + 1 ∧ ∀ a ∈ items, FitsIn d a := by
  constructor
  · intro h
    cases h with
    | list h => exact ⟨_, rfl, h⟩
  · rintro ⟨d, rfl, h⟩
    exact .list h

theorem fitsIn_object_iff {depth : Nat} {members : List (String × Json)} :
    FitsIn depth (.object members) ↔ ∃ d, depth = d + 1 ∧ ∀ m ∈ members, FitsIn d m.2 := by
  constructor
  · intro h
    cases h with
    | object h => exact ⟨_, rfl, h⟩
  · rintro ⟨d, rfl, h⟩
    exact .object h

/-! ## Any order of members -/

/-- Two members of the same name, with values so related. -/
inductive SameName {α β : Type} (R : α → β → Prop) : String × α → String × β → Prop where
  | mk {name : String} {a : α} {b : β} : R a b → SameName R (name, a) (name, b)

/-- The second value is the first one with the members of its objects in any order. -/
inductive Reorders : Json → Json → Prop where
  | null : Reorders .null .null
  | bool (b : Bool) : Reorders (.bool b) (.bool b)
  | number (n : Number) : Reorders (.number n) (.number n)
  | string (s : String) : Reorders (.string s) (.string s)
  | list {as bs : List Json} : List.Forall₂ Reorders as bs → Reorders (.list as) (.list bs)
  | object {ms ms' ns : List (String × Json)} :
      ms.Perm ms' → List.Forall₂ (SameName Reorders) ms' ns → Reorders (.object ms) (.object ns)

theorem reorders_list_iff {as : List Json} {b : Json} :
    Reorders (.list as) b ↔ ∃ bs, b = .list bs ∧ List.Forall₂ Reorders as bs := by
  constructor
  · intro h
    cases h with
    | list h => exact ⟨_, rfl, h⟩
  · rintro ⟨bs, rfl, h⟩
    exact .list h

theorem reorders_object_iff {ms : List (String × Json)} {b : Json} :
    Reorders (.object ms) b ↔
      ∃ ms' ns, b = .object ns ∧ ms.Perm ms' ∧ List.Forall₂ (SameName Reorders) ms' ns := by
  constructor
  · intro h
    cases h with
    | object hperm h => exact ⟨_, _, rfl, hperm, h⟩
  · rintro ⟨ms', ns, rfl, hperm, h⟩
    exact .object hperm h

mutual

/-- The order of members may stay. -/
theorem Reorders.refl : ∀ a, Reorders a a
  | .null => .null
  | .bool b => .bool b
  | .number n => .number n
  | .string s => .string s
  | .list items => .list (Reorders.refl_items items)
  | .object members => .object (.refl _) (Reorders.refl_members members)

theorem Reorders.refl_items : ∀ items, List.Forall₂ Reorders items items
  | [] => .nil
  | a :: items => .cons (Reorders.refl a) (Reorders.refl_items items)

theorem Reorders.refl_members : ∀ members, List.Forall₂ (SameName Reorders) members members
  | [] => .nil
  | (_, a) :: members => .cons (.mk (Reorders.refl a)) (Reorders.refl_members members)

end

/-! ## What is so related member by member -/

section

variable {α β : Type} {R S : α → β → Prop}

theorem forall₂_of_forall_mem {as : List α} {bs : List β} (h : List.Forall₂ R as bs)
    (hS : ∀ a ∈ as, ∀ b, R a b → S a b) : List.Forall₂ S as bs :=
  ((List.forall₂_and_left as bs).2 ⟨hS, h⟩).imp fun _ b hab => hab.1 b hab.2

theorem forall₂_sameName_of_forall_mem {ms : List (String × α)} {ns : List (String × β)}
    (h : List.Forall₂ (SameName R) ms ns) (hS : ∀ m ∈ ms, ∀ b, R m.2 b → S m.2 b) :
    List.Forall₂ (SameName S) ms ns := by
  refine forall₂_of_forall_mem h fun m hm n hmn => ?_
  cases hmn with
  | mk hab => exact .mk (hS _ hm _ hab)

/-- What holds of all that is related to a member on the left holds of all on the right. -/
theorem forall_mem_of_forall₂ {Q : β → Prop} {as : List α} {bs : List β}
    (h : List.Forall₂ R as bs) (hQ : ∀ a ∈ as, ∀ b, R a b → Q b) : ∀ b ∈ bs, Q b := by
  induction h with
  | nil => exact fun b hb => absurd hb List.not_mem_nil
  | cons hab _ ih =>
    obtain ⟨hhead, htail⟩ := List.forall_mem_cons.1 hQ
    exact List.forall_mem_cons.2 ⟨hhead _ hab, ih htail⟩

theorem forall_mem_of_sameName {Q : β → Prop} {ms : List (String × α)} {ns : List (String × β)}
    (h : List.Forall₂ (SameName R) ms ns) (hQ : ∀ m ∈ ms, ∀ b, R m.2 b → Q b) :
    ∀ n ∈ ns, Q n.2 := by
  refine forall_mem_of_forall₂ h fun m hm n hmn => ?_
  cases hmn with
  | mk hab => exact hQ _ hm _ hab

end

theorem HasLongs.of_reorders {a : Json} (ha : a.HasLongs) {b : Json} (h : Reorders a b) :
    b.HasLongs := by
  induction ha generalizing b with
  | null =>
    cases h
    exact .null
  | bool v =>
    cases h
    exact .bool v
  | int hi =>
    cases h
    exact .int hi
  | string s =>
    cases h
    exact .string s
  | list _ ih =>
    obtain ⟨bs, rfl, hbs⟩ := reorders_list_iff.1 h
    exact .list (forall_mem_of_forall₂ hbs fun a ha _ => ih a ha)
  | object _ ih =>
    obtain ⟨ms', ns, rfl, hperm, hns⟩ := reorders_object_iff.1 h
    exact .object (forall_mem_of_sameName hns fun m hm _ => ih m (hperm.mem_iff.2 hm))

theorem FitsIn.of_reorders {a : Json} {depth : Nat} (ha : a.FitsIn depth) {b : Json}
    (h : Reorders a b) : b.FitsIn depth := by
  induction ha generalizing b with
  | null depth =>
    cases h
    exact .null depth
  | bool depth v =>
    cases h
    exact .bool depth v
  | number depth n =>
    cases h
    exact .number depth n
  | string depth s =>
    cases h
    exact .string depth s
  | list _ ih =>
    obtain ⟨bs, rfl, hbs⟩ := reorders_list_iff.1 h
    exact .list (forall_mem_of_forall₂ hbs fun a ha _ => ih a ha)
  | object _ ih =>
    obtain ⟨ms', ns, rfl, hperm, hns⟩ := reorders_object_iff.1 h
    exact .object (forall_mem_of_sameName hns fun m hm _ => ih m (hperm.mem_iff.2 hm))

end WebhookClient.Json
