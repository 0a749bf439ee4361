import Mathlib
import WebhookClient.Proofs.Json.Along

/-!
# What a type demands of objects

A type has members that must be there, and members that can be left away or `null`, the value then
being without them. A type `KeepsDemands` if that is so in every text that is read as a value of it.
A type that is read along fields requires just those fields that have no value in the place of a
missing member. Main statement: `IsReadAlong.keepsDemands`.
-/

set_option autoImplicit false

namespace WebhookClient.Json

open Flattened

/-! ## Demands -/

/-- A member of the objects that values of a type are read from. -/
inductive Demand (α : Type) where
  /-- A member that must be there. -/
  | required (name : String)
  /-- A member that can be left away, and how a value is without it. -/
  | optional (name : String) (clear : α → α)

namespace Demand

variable {α β : Type}

def name : Demand α → String
  | required name => name
  | optional name _ => name

/-- A demand on a value as one on a larger value that holds it. -/
def lift (get : β → α) (put : β → α → β) : Demand α → Demand β
  | required name => required name
  | optional name clear => optional name fun b => put b (clear (get b))

theorem name_lift (get : β → α) (put : β → α → β) (p : Demand α) :
    (p.lift get put).name = p.name := by
  cases p <;> rfl

/-- A demand on a row as one on a row with a value before it. -/
def onRest {τ : Type} {ts : List Type} (p : Demand (Row ts)) : Demand (Row (τ :: ts)) :=
  p.lift (fun (r : τ × Row ts) => r.2) fun r s => (r.1, s)

/-- An object that is read as a value meets a demand. A required member is there, and without it no
value is read. Without an optional member, or with `null` under it, what is read is the value
without it, which is the value itself if there was no such member. -/
def IsMet [Wire α] (ns : List (String × Document)) (a : α) : Demand α → Prop
  | required name => name ∈ namesOf ns ∧ ∀ s, SaysObject s (without name ns) →
      decode (α := α) s = .error (.missingMember name)
  | optional name clear => (name ∉ namesOf ns → clear a = a) ∧
      ∀ s ms, SaysObject s ms →
        ms = without name ns ∨ ms.Perm ((name, .null) :: without name ns) →
          decode s = .ok (clear a)

end Demand

/-- The demands are on all members that a type has, and every object that is read as a value meets
them. -/
structure KeepsDemands (α : Type) [Wire α] (demands : List (Demand α)) : Prop where
  nodup : (demands.map (·.name)).Nodup
  covers : ∀ a : α, ∃ ms, encode a = (Json.object ms).toText ∧
    ∀ m ∈ ms, m.1 ∈ demands.map (·.name)
  meets : ∀ (s : String) (ms : Members) (a : α), (Text.ofChars s.toList).root = .object ms →
    decode s = .ok a → ∃ ns, SaysObject s ns ∧ ∀ p ∈ demands, p.IsMet ns a

/-! ## Fields as demands -/

/-- For a field that can be missing, `null` stands for the value that it has then. -/
class Field.Lenient {τ : Type} (f : Field τ) : Prop where
  read_null : ∀ {v : τ}, f.absent = some v → ∀ depth, f.read depth .null = .ok v

/-- All fields of a record are lenient. -/
class inductive Fields.Lenient : {ts : List Type} → Fields ts → Prop where
  | nil : Fields.Lenient .nil
  | cons {τ : Type} {ts : List Type} {f : Field τ} {fs : Fields ts} :
      f.Lenient → Fields.Lenient fs → Fields.Lenient (.cons f fs)

instance : Fields.Lenient .nil := .nil

instance {τ : Type} {ts : List Type} {f : Field τ} {fs : Fields ts} [hf : f.Lenient]
    [hfs : fs.Lenient] : Fields.Lenient (.cons f fs) := .cons hf hfs

section

variable {τ : Type} [Wire τ] {name : String}

instance : (Field.required (τ := τ) name).Lenient where
  read_null h := by cases h

instance : (Field.optional (τ := τ) name).Lenient where
  read_null h _ := by
    cases h
    rfl

end

namespace Fields

variable {ts : List Type} {fs : Fields ts} {depth : Nat} {name : String}
  {ns ms : List (String × Document)} {r : Row ts} {clear : Row ts → Row ts}

/-- The demands on a row: a field is required if there is nothing in the place of a missing member.
-/
def demands : {ts : List Type} → Fields ts → List (Demand (Row ts))
  | _, .nil => []
  | _, .cons f fs =>
    (match f.absent with
      | none => .required f.name
      | some v => .optional f.name fun r => (v, r.2)) :: fs.demands.map .onRest

theorem map_name_demands (fs : Fields ts) : fs.demands.map (·.name) = fs.names := by
  induction fs with
  | nil => rfl
  | @cons τ ts f fs ih =>
    have hrest : (fs.demands.map fun p => (Demand.onRest p : Demand (Row (τ :: ts)))).map (·.name) =
        fs.names := by
      rw [List.map_map, ← ih]
      exact List.map_congr_left fun p _ => Demand.name_lift _ _ p
    obtain ⟨name, write, read, absent⟩ := f
    cases absent <;> exact congrArg (name :: ·) hrest

theorem mem_names_of_mem_demands {p : Demand (Row ts)} (h : p ∈ fs.demands) :
    p.name ∈ fs.names := by
  rw [← map_name_demands]
  exact List.mem_map_of_mem h

theorem lenient_append {us : List Type} {gs : Fields us} (hfs : fs.Lenient) (hgs : gs.Lenient) :
    (fs.append gs).Lenient := by
  induction hfs with
  | nil => exact hgs
  | cons hf _ ih => exact .cons hf ih

theorem requires_of_mem_demands (hnames : fs.names.Nodup) (h : .required name ∈ fs.demands) :
    fs.Requires name := by
  induction fs with
  | nil => cases h
  | cons f fs ih =>
    obtain ⟨hf, hnames⟩ := List.nodup_cons.1 hnames
    rw [Requires]
    obtain hhead | hrest := List.mem_cons.1 h
    · split at hhead
      · next habsent =>
        cases hhead
        rwa [if_pos rfl]
      · cases hhead
    · obtain ⟨q, hq, heq⟩ := List.mem_map.1 hrest
      cases q with
      | optional _ _ => cases heq
      | required _ =>
        cases heq
        have hmem : name ∈ fs.names := mem_names_of_mem_demands hq
        have hne : f.name ≠ name := fun heq => hf (heq ▸ hmem)
        rw [if_neg hne]
        exact ih hnames hq

/-- Without an optional member, or with `null` under it, the fields take the row without it. -/
theorem takes_clear (hfs : fs.Lenient) (hnames : fs.names.Nodup) (hr : fs.Takes depth ns r)
    (hp : .optional name clear ∈ fs.demands)
    (hname : lookup name ms = none ∨ lookup name ms = some .null)
    (hothers : ∀ k ≠ name, lookup k ms = lookup k ns) : fs.Takes depth ms (clear r) := by
  induction hfs with
  | nil => cases hp
  | @cons τ ts f fs hf hfs ih =>
    obtain ⟨hfirst, hnames⟩ := List.nodup_cons.1 hnames
    obtain ⟨v, vs⟩ := r
    obtain ⟨hv, hvs⟩ := hr
    obtain hhead | hrest := List.mem_cons.1 hp
    · split at hhead
      · cases hhead
      · next w habsent =>
        cases hhead
        have hlater : ∀ k ∈ fs.names, lookup k ms = lookup k ns := fun k hk =>
          hothers k fun heq => hfirst (heq ▸ hk)
        refine ⟨?_, (takes_congr hlater).2 hvs⟩
        unfold Field.Takes
        obtain hnone | hnull := hname
        · rwa [hnone]
        · rw [hnull]
          exact hf.read_null habsent depth
    · obtain ⟨q, hq, heq⟩ := List.mem_map.1 hrest
      cases q with
      | required _ => cases heq
      | optional _ _ =>
        cases heq
        have hmem : name ∈ fs.names := mem_names_of_mem_demands hq
        have hne : f.name ≠ name := fun heq => hfirst (heq ▸ hmem)
        refine ⟨?_, ih hnames hvs hq⟩
        unfold Field.Takes
        rw [hothers f.name hne]
        exact hv

end Fields

/-! ## Types that are read along fields -/

namespace IsReadAlong

variable {α : Type} [Wire α] {ts : List Type} {fs : Fields ts} {toRow : α → Row ts}
  {Passes : Nat → String × Document → Prop} {depth : Nat} {name : String}
  {ns ms : List (String × Document)} {a b : α}

/-- A member that is required is there. -/
theorem mem_namesOf_of_requires (h : IsReadAlong fs toRow Passes)
    (hread : Wire.read (depth + 1) (.object (asMembers ns)) = .ok a) (hname : fs.Requires name) :
    name ∈ namesOf ns := by
  by_contra hmissing
  have herror := h.read_without hread hname
  rw [without_eq_self hmissing, hread] at herror
  cases herror

/-- What is read where an optional member is left away or `null`. -/
theorem read_clear (h : IsReadAlong fs toRow Passes) (hlenient : fs.Lenient)
    (hread : Wire.read (depth + 1) (.object (asMembers ns)) = .ok a) {clear : Row ts → Row ts}
    (hp : .optional name clear ∈ fs.demands) (hb : toRow b = clear (toRow a))
    (hms : ms = without name ns ∨ ms.Perm ((name, .null) :: without name ns)) :
    Wire.read (depth + 1) (.object (asMembers ms)) = .ok b := by
  obtain ⟨ns', heq, hsingle, hpasses, htakes⟩ := h.read_eq_ok_iff.1 hread
  cases asMembers_injective heq
  have hsub : (without name ns).Sublist ns := List.filter_sublist
  have hsingle' := Fields.isSingle_of_sublist hsub hsingle
  have hpasses' : ∀ m ∈ without name ns, Passes depth m := fun m hm => hpasses m (hsub.subset hm)
  refine h.read_eq_ok_iff.2 ⟨ms, rfl, ?_⟩
  rw [hb]
  obtain rfl | hperm := hms
  · refine ⟨hsingle', hpasses', Fields.takes_clear hlenient h.nodup_names htakes hp ?_ ?_⟩
    · exact .inl lookup_without_self
    · exact fun k hk => lookup_without_of_ne hk
  · have hmem : name ∈ fs.names := Fields.mem_names_of_mem_demands hp
    have hnull : fs.IsSingle ((name, Document.null) :: without name ns) :=
      Fields.isSingle_replaced hmem hsingle
    have hclear : fs.Takes depth ((name, Document.null) :: without name ns) (clear (toRow a)) :=
      Fields.takes_clear hlenient h.nodup_names htakes hp (.inr lookup_replaced_self)
        fun k hk => lookup_replaced_of_ne hk
    refine ⟨Fields.isSingle_of_perm hperm.symm hnull, fun m hm => ?_,
      Fields.takes_of_perm hperm.symm hnull hclear⟩
    obtain rfl | hm := List.mem_cons.1 (hperm.mem_iff.1 hm)
    · exact h.passes_of_toJson (a := .null) rfl
    · exact hpasses' m hm

/-- A type that is read along fields demands those that take nothing in the place of a missing
member. -/
theorem keepsDemands (h : IsReadAlong fs toRow Passes) {ofRow : Row ts → α}
    (hback : ∀ r, toRow (ofRow r) = r) (hlenient : fs.Lenient) :
    KeepsDemands α (fs.demands.map fun p => p.lift toRow fun _ => ofRow) := by
  have hnames : (fs.demands.map fun p => p.lift toRow fun _ => ofRow).map (·.name) = fs.names := by
    rw [List.map_map, ← Fields.map_name_demands]
    exact List.map_congr_left fun p _ => Demand.name_lift _ _ p
  constructor
  · rw [hnames]
    exact h.nodup_names
  · intro a
    obtain ⟨ms, hwrite, hms⟩ := h.write_eq a
    rw [hnames]
    exact ⟨ms, congrArg Json.toText hwrite, hms⟩
  · intro s ms a hroot hdecode
    obtain ⟨hread, hcomplete⟩ := decode_eq_ok_iff.1 hdecode
    rw [hroot] at hread
    obtain ⟨ns, rfl, -⟩ := h.read_eq_ok_iff.1 hread
    refine ⟨ns, saysObject_iff.2 ⟨hroot, hcomplete⟩, List.forall_mem_map.2 fun p hp => ?_⟩
    cases p with
    | required name =>
      have hname := Fields.requires_of_mem_demands h.nodup_names hp
      refine ⟨h.mem_namesOf_of_requires hread hname, fun s' hs' => ?_⟩
      rw [decode_of_saysObject hs']
      exact h.read_without hread hname
    | optional name clear =>
      have hclear : ∀ ms, ms = without name ns ∨ ms.Perm ((name, .null) :: without name ns) →
          Wire.read maxDepth (.object (asMembers ms)) = .ok (ofRow (clear (toRow a))) :=
        fun ms hms => h.read_clear hlenient hread hp (hback _) hms
      refine ⟨fun hmissing => ?_, fun s' ms hs' hms => ?_⟩
      · have hsame := hclear ns (.inl (without_eq_self hmissing).symm)
        exact Except.ok.inj (hsame.symm.trans hread)
      · rw [decode_of_saysObject hs']
        exact hclear ms hms

end IsReadAlong

/-! ## Records -/

/-- A record keeps the demands of its fields. -/
theorem Record.keepsDemands {α : Type} [Record α] {demands : List (Demand α)}
    (hdemands : demands = (fields (α := α)).demands.map fun p => p.lift toRow fun _ => ofRow)
    (hlenient : (fields (α := α)).Lenient := by dsimp only [Record.fields]; infer_instance)
    (hnames : (fields (α := α)).names.Nodup := by decide) : KeepsDemands α demands := by
  rw [hdemands]
  exact (Record.isReadAlong hnames).keepsDemands toRow_ofRow hlenient

/-- A record with an inner one keeps the demands of the fields of both. -/
theorem Flattened.keepsDemands {α ι : Type} [Record ι] [Flattened α ι] {demands : List (Demand α)}
    (hdemands : demands = (allFields α).demands.map fun p => p.lift toAll fun _ => ofAll)
    (hinner : (Record.fields (α := ι)).Lenient := by dsimp only [Record.fields]; infer_instance)
    (hown : (fields (α := α)).Lenient := by dsimp only [Flattened.fields]; infer_instance)
    (hnames : (allFields α).names.Nodup := by decide) : KeepsDemands α demands := by
  rw [hdemands]
  exact (Flattened.isReadAlong hnames).keepsDemands toAll_ofAll
    (Fields.lenient_append hinner hown)

end WebhookClient.Json
