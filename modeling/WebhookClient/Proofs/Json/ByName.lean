import Mathlib
import WebhookClient.Proofs.Json.Along

/-!
# Reading members by name

A type `ReadsByName` if the order of members and members of other names are of no account to what is
read from an object, and if a second member of a name is refused. A type that is read along fields
reads their names so. Main statement: `IsReadAlong.readsByName`.
-/

set_option autoImplicit false

namespace WebhookClient.Json

open Flattened

/-- From objects, values of a type are read by the names of members. -/
structure ReadsByName (α : Type) [Wire α] (names : List String) : Prop where
  nodup : names.Nodup
  /-- Members of other names are never written. -/
  covers : ∀ a : α, ∃ ms, encode a = (Json.object ms).toText ∧ ∀ m ∈ ms, m.1 ∈ names
  /-- The name of each member of an object must be readable. -/
  exists_saysObject : ∀ (s : String) (ms : Members) (a : α),
    (Text.ofChars s.toList).root = .object ms → decode s = .ok a → ∃ ns, SaysObject s ns
  /-- Members may stand in any order, with others between them that the generic reader takes. -/
  decode_of_perm : ∀ (s t : String) (ns ms others : List (String × Document)) (a : α),
    SaysObject s ns → decode s = .ok a → SaysObject t ms → ms.Perm (ns ++ others) →
      (∀ m ∈ others, m.1 ∉ names ∧ m.2.IsJson) → decode t = .ok a
  /-- A member of the names may not be repeated, wherever the two stand. -/
  decode_of_repeated : ∀ (s t : String) (ns ms : List (String × Document)) (a : α)
    (m : String × Document), SaysObject s ns → decode s = .ok a → SaysObject t ms → m ∈ ns →
      m.1 ∈ names → ms.Perm (m :: ns) → decode (α := α) t = .error (.duplicateMember m.1)
  /-- After a member of the names there may not be one of the same name with another value. -/
  decode_of_second : ∀ (s t : String) (ns before after : List (String × Document)) (a : α)
    (name : String) (d : Document), SaysObject s ns → decode s = .ok a → (before ++ after).Perm ns →
      name ∈ names → name ∈ namesOf before → d.IsJson →
        SaysObject t (before ++ (name, d) :: after) →
          decode (α := α) t = .error (.duplicateMember name)

/-- Of two equal members one stands before the other. -/
theorem exists_later_of_perm {α : Type} {m : α} {ns ms : List α} (hm : m ∈ ns)
    (h : ms.Perm (m :: ns)) : ∃ before after,
      ms = before ++ m :: after ∧ m ∈ before ∧ (before ++ after).Perm ns := by
  obtain ⟨first, rest, rfl, hfirst⟩ := List.eq_append_cons_of_mem (h.mem_iff.2 List.mem_cons_self)
  have hperm : (first ++ rest).Perm ns := (List.perm_middle.symm.trans h).cons_inv
  -- Before the first of the two there is none, so the other one comes after it.
  have hrest : m ∈ rest := (List.mem_append.1 (hperm.mem_iff.2 hm)).resolve_left hfirst
  obtain ⟨between, after, rfl, -⟩ := List.eq_append_cons_of_mem hrest
  refine ⟨first ++ m :: between, after, by simp, by simp, ?_⟩
  rw [List.append_assoc, List.cons_append]
  exact (List.perm_middle.symm.append_left first).trans hperm

namespace Fields

variable {ts : List Type} {fs : Fields ts} {depth : Nat} {r : Row ts}
  {ns others : List (String × Document)} (hothers : ∀ m ∈ others, m.1 ∉ fs.names)

include hothers

/-- Members of other names are not counted. -/
theorem isSingle_append_others : fs.IsSingle (ns ++ others) ↔ fs.IsSingle ns := by
  have hnone : (namesOf others).filter (· ∈ fs.names) = [] := by
    refine List.filter_eq_nil_iff.2 (List.forall_mem_map.2 fun m hm => ?_)
    simpa using hothers m hm
  rw [IsSingle, IsSingle, namesOf, List.map_append, List.filter_append, ← namesOf, ← namesOf, hnone,
    List.append_nil]

theorem takes_append_others : fs.Takes depth (ns ++ others) r ↔ fs.Takes depth ns r := by
  refine takes_congr fun k hk => ?_
  have hnone : lookup k others = none :=
    lookup_eq_none_iff.2 fun hmem => by
      obtain ⟨m, hm, rfl⟩ := List.mem_map.1 hmem
      exact hothers m hm hk
  rw [lookup_append, hnone, Option.or_none]

end Fields

namespace IsReadAlong

variable {α : Type} [Wire α] {ts : List Type} {fs : Fields ts} {toRow : α → Row ts}
  {Passes : Nat → String × Document → Prop} {depth : Nat}
  {ns ms others : List (String × Document)} {a : α}

/-- Members may be put in any order, and others that pass may be added. -/
theorem read_of_perm (h : IsReadAlong fs toRow Passes)
    (hread : Wire.read (depth + 1) (.object (asMembers ns)) = .ok a)
    (hperm : ms.Perm (ns ++ others)) (hothers : ∀ m ∈ others, m.1 ∉ fs.names)
    (hpass : ∀ m ∈ others, Passes depth m) :
    Wire.read (depth + 1) (.object (asMembers ms)) = .ok a := by
  obtain ⟨ns', heq, hsingle, hpasses, htakes⟩ := h.read_eq_ok_iff.1 hread
  cases asMembers_injective heq
  have hsingle' := (Fields.isSingle_append_others hothers).2 hsingle
  have htakes' := (Fields.takes_append_others hothers).2 htakes
  have hpasses' : ∀ m ∈ ns ++ others, Passes depth m := List.forall_mem_append.2 ⟨hpasses, hpass⟩
  exact h.read_eq_ok_iff.2 ⟨ms, rfl, Fields.isSingle_of_perm hperm.symm hsingle',
    fun m hm => hpasses' m (hperm.mem_iff.1 hm), Fields.takes_of_perm hperm.symm hsingle' htakes'⟩

/-- A second member of a field is refused wherever the members stood. -/
theorem read_second_of_perm (h : IsReadAlong fs toRow Passes)
    (hread : Wire.read (depth + 1) (.object (asMembers ns)) = .ok a)
    {before after : List (String × Document)} {name : String} {d : Document}
    (hperm : (before ++ after).Perm ns) (hname : name ∈ fs.names) (hbefore : name ∈ namesOf before)
    (hpass : Passes depth (name, d)) :
    Wire.read (depth + 1) (.object (asMembers (before ++ (name, d) :: after))) =
      (.error (.duplicateMember name) : Except ReadError α) := by
  have hperm' : (before ++ after).Perm (ns ++ []) := by rwa [List.append_nil]
  exact h.read_second (h.read_of_perm hread hperm' (List.forall_mem_nil _) (List.forall_mem_nil _))
    hname hbefore hpass

theorem readsByName (h : IsReadAlong fs toRow Passes) : ReadsByName α fs.names where
  nodup := h.nodup_names
  covers a := by
    obtain ⟨ms, hwrite, hms⟩ := h.write_eq a
    exact ⟨ms, congrArg Json.toText hwrite, hms⟩
  exists_saysObject s ms a hroot hdecode := by
    obtain ⟨hread, hcomplete⟩ := decode_eq_ok_iff.1 hdecode
    rw [hroot] at hread
    obtain ⟨ns, rfl, -⟩ := h.read_eq_ok_iff.1 hread
    exact ⟨ns, saysObject_iff.2 ⟨hroot, hcomplete⟩⟩
  decode_of_perm s t ns ms others a hs hdecode ht hperm hothers := by
    rw [decode_of_saysObject hs] at hdecode
    rw [decode_of_saysObject ht]
    refine h.read_of_perm hdecode hperm (fun m hm => (hothers m hm).1) fun m hm => ?_
    obtain ⟨b, hb⟩ := (hothers m hm).2
    exact h.passes_of_toJson hb
  decode_of_repeated s t ns ms a m hs hdecode ht hm hname hperm := by
    rw [decode_of_saysObject hs] at hdecode
    rw [decode_of_saysObject ht]
    obtain ⟨before, after, rfl, hbefore, hrest⟩ := exists_later_of_perm hm hperm
    obtain ⟨ns', heq, -, hpasses, -⟩ := h.read_eq_ok_iff.1 hdecode
    cases asMembers_injective heq
    exact h.read_second_of_perm hdecode hrest hname (List.mem_map_of_mem hbefore) (hpasses m hm)
  decode_of_second s t ns before after a name d hs hdecode hperm hname hbefore hd ht := by
    rw [decode_of_saysObject hs] at hdecode
    rw [decode_of_saysObject ht]
    obtain ⟨b, hb⟩ := hd
    exact h.read_second_of_perm hdecode hperm hname hbefore (h.passes_of_toJson hb)

end IsReadAlong

end WebhookClient.Json
