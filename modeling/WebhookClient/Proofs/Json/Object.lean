import Mathlib
import WebhookClient.Proofs.Json.Members

/-!
# Texts of objects

A whole text `SaysObject` if it is that of an object whose names can be read; to decode it is to
read the object. What the generic reader takes can also be skipped.
-/

set_option autoImplicit false

namespace WebhookClient.Json

open Flattened

/-! ## Members -/

/-- The members of all names but one. -/
def without (name : String) (ns : List (String × Document)) : List (String × Document) :=
  ns.filter fun m => m.1 ≠ name

section

variable {k name : String} {d : Document} {ns ms : List (String × Document)}

theorem asMembers_injective (h : asMembers ns = asMembers ms) : ns = ms := by
  induction ns generalizing ms with
  | nil =>
    cases ms with
    | nil => rfl
    | cons m ms => cases h
  | cons n ns ih =>
    cases ms with
    | nil => cases h
    | cons m ms =>
      obtain ⟨hname, hvalue, hrest⟩ := Members.member.inj h
      rw [Prod.ext (StringToken.plain.inj hname) hvalue, ih hrest]

/-- Of members of which at most one has the name, the one that is found is that one. -/
theorem lookup_eq_some_iff_mem (h : (namesOf ns).count k ≤ 1) :
    lookup k ns = some d ↔ (k, d) ∈ ns := by
  induction ns with
  | nil => simp
  | cons m ns ih =>
    obtain ⟨l, e⟩ := m
    rw [namesOf, List.map_cons, List.count_cons, ← namesOf] at h
    rw [lookup_cons, List.mem_cons, Prod.mk.injEq]
    by_cases hl : l = k
    · subst hl
      have hnone : l ∉ namesOf ns := by
        rw [if_pos (beq_self_eq_true l)] at h
        exact List.count_eq_zero.1 (by omega)
      have hnot : (l, d) ∉ ns := fun hmem => hnone (List.mem_map_of_mem hmem)
      simp [hnot, eq_comm]
    · rw [if_neg hl, ih (by omega)]
      simp [Ne.symm hl]

theorem lookup_eq_of_perm (h : ns.Perm ms) (hcount : (namesOf ns).count k ≤ 1) :
    lookup k ns = lookup k ms := by
  have hcount' : (namesOf ms).count k ≤ 1 := ((h.map (·.1)).count_eq k).symm.trans_le hcount
  refine Option.ext fun d => ?_
  rw [lookup_eq_some_iff_mem hcount, lookup_eq_some_iff_mem hcount', h.mem_iff]

theorem lookup_append : lookup k (ns ++ ms) = (lookup k ns).or (lookup k ms) := by
  induction ns with
  | nil => rfl
  | cons n ns ih =>
    obtain ⟨l, e⟩ := n
    rw [List.cons_append, lookup_cons, lookup_cons, ih]
    split_ifs <;> rfl

/-- A member of another name may stand anywhere. -/
theorem lookup_middle_of_ne (h : k ≠ name) :
    lookup k (ns ++ (name, d) :: ms) = lookup k (ns ++ ms) := by
  rw [lookup_append, lookup_append, lookup_cons, if_neg (Ne.symm h)]

theorem lookup_filter (p : String → Prop) [DecidablePred p] :
    lookup k (ns.filter fun m => p m.1) = if p k then lookup k ns else none := by
  induction ns with
  | nil => simp
  | cons n ns ih =>
    obtain ⟨l, e⟩ := n
    by_cases hl : p l
    · rw [List.filter_cons_of_pos (by simpa using hl), lookup_cons, lookup_cons, ih]
      by_cases hk : l = k
      · rw [if_pos hk, if_pos hk, if_pos (hk ▸ hl)]
      · rw [if_neg hk, if_neg hk]
    · rw [List.filter_cons_of_neg (by simpa using hl), lookup_cons, ih]
      by_cases hk : l = k
      · rw [if_neg (hk ▸ hl), if_neg (hk ▸ hl)]
      · rw [if_neg hk]

theorem lookup_without_self : lookup name (without name ns) = none :=
  (lookup_filter (· ≠ name)).trans (if_neg (not_not.2 rfl))

theorem lookup_without_of_ne (h : k ≠ name) : lookup k (without name ns) = lookup k ns :=
  (lookup_filter (· ≠ name)).trans (if_pos h)

/-- What stands under a name is replaced. -/
theorem lookup_replaced_self : lookup name ((name, d) :: without name ns) = some d := by
  rw [lookup_cons, if_pos rfl]

theorem lookup_replaced_of_ne (h : k ≠ name) :
    lookup k ((name, d) :: without name ns) = lookup k ns := by
  rw [lookup_cons, if_neg (Ne.symm h), lookup_without_of_ne h]

theorem without_eq_self (h : name ∉ namesOf ns) : without name ns = ns := by
  refine List.filter_eq_self.2 fun m hm => decide_eq_true fun heq => h ?_
  rw [← heq]
  exact List.mem_map_of_mem hm

end

/-! ## What can be read can be skipped -/

theorem StringToken.skip_of_get {t : StringToken} {s : String} (h : t.get = .ok s) :
    t.skip = .ok () := by
  cases t with
  | plain s => rfl
  | unreadable e => rfl
  | broken f => cases h

mutual

/-- A value that the generic reader takes can be skipped. -/
theorem Document.skip_of_toJson : ∀ (d : Document) {depth : Nat} {a : Json},
    d.toJson depth = .ok a → d.skip = .ok ()
  | .null, _, _, _ => rfl
  | .bool _, _, _, _ => rfl
  | .number _, _, _, _ => rfl
  | .overlarge, _, _, h => by cases h
  | .string t, _, _, h => by
    obtain ⟨s, hs, -⟩ := map_eq_ok_iff.1 h
    exact StringToken.skip_of_get hs
  | .list items, 0, _, h => by cases h
  | .list items, depth + 1, _, h => by
    obtain ⟨as, has, -⟩ := map_eq_ok_iff.1 h
    exact Items.skip_of_toJson items has
  | .object members, 0, _, h => by cases h
  | .object members, depth + 1, _, h => by
    obtain ⟨ms, hms, -⟩ := map_eq_ok_iff.1 h
    exact Members.skip_of_toJson members hms
  | .malformed f, _, _, h => by cases h
  | .missing, _, _, h => by cases h

theorem Items.skip_of_toJson : ∀ (items : Items) {depth : Nat} {as : List Json},
    items.toJson depth = .ok as → items.skip = .ok ()
  | .closed, _, _, _ => rfl
  | .broken b, _, _, h => by cases h
  | .item d rest, _, _, h => by
    obtain ⟨a, ha, h⟩ := bind_eq_ok_iff.1 h
    obtain ⟨as, has, -⟩ := bind_eq_ok_iff.1 h
    exact bind_eq_ok_iff.2 ⟨(), Document.skip_of_toJson d ha, Items.skip_of_toJson rest has⟩

theorem Members.skip_of_toJson : ∀ (members : Members) {depth : Nat}
    {read ms : List (String × Json)}, members.toJson depth read = .ok ms → members.skip = .ok ()
  | .closed, _, _, _, _ => rfl
  | .textEnds, _, _, _, h => by cases h
  | .separatorMissing, _, _, _, h => by cases h
  | .danglingComma, _, _, _, h => by cases h
  | .textEndsAfterComma, _, _, _, h => by cases h
  | .nameMissing _, _, _, _, h => by cases h
  | .colonMissing n e, _, _, _, h => by
    obtain ⟨_, -, h⟩ := bind_eq_ok_iff.1 h
    cases h
  | .member n d rest, _, _, _, h => by
    obtain ⟨k, hk, h⟩ := bind_eq_ok_iff.1 h
    obtain ⟨a, ha, h⟩ := bind_eq_ok_iff.1 h
    refine bind_eq_ok_iff.2 ⟨(), StringToken.skip_of_get hk, bind_eq_ok_iff.2 ⟨(), ?_, ?_⟩⟩
    · exact Document.skip_of_toJson d ha
    · exact Members.skip_of_toJson rest h

end

/-! ## Texts -/

/-- A whole text that is an object with these members. -/
def SaysObject (s : String) (ns : List (String × Document)) : Prop :=
  Text.ofChars s.toList = ⟨.object (asMembers ns), true⟩

/-- The generic reader takes a value where it stands as a member of the outermost object. -/
def Document.IsJson (d : Document) : Prop := ∃ a, d.toJson (maxDepth - 1) = .ok a

section

variable {s : String} {ns : List (String × Document)}

theorem saysObject_iff : SaysObject s ns ↔
    (Text.ofChars s.toList).root = .object (asMembers ns) ∧
      (Text.ofChars s.toList).complete = true := by
  unfold SaysObject
  cases Text.ofChars s.toList
  exact (Text.mk.injEq _ _ _ _).to_iff

/-- Decoding the text of an object is reading the object. -/
theorem decode_of_saysObject {α : Type} [Wire α] (h : SaysObject s ns) :
    decode (α := α) s = Wire.read maxDepth (.object (asMembers ns)) := by
  unfold decode Text.decode
  rw [h]
  cases (Wire.read maxDepth (.object (asMembers ns)) : Except ReadError α) <;> rfl

end

end WebhookClient.Json
