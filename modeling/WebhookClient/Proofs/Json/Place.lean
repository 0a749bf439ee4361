import Mathlib
import WebhookClient.Proofs.Json.InOrder

/-!
# One field of a record

Each field of a record has its place among the others. Where the value under its name, or at its
index in a list, is replaced by another, the record is read just if the field takes the new value,
and it is then as it was but for this field. Main statements: `read_members_replaced_iff` and
`read_items_replaced_iff`.
-/

set_option autoImplicit false

namespace WebhookClient.Json

open Flattened

variable {τ : Type} {ts : List Type}

/-- The place of a field among the fields of a record. -/
class inductive Place {τ : Type} (f : Field τ) : {ts : List Type} → Fields ts → Type 1 where
  | here {ts : List Type} {fs : Fields ts} : Place f (.cons f fs)
  | there {σ : Type} {ts : List Type} {g : Field σ} {fs : Fields ts} (p : Place f fs) :
      Place f (.cons g fs)

instance {f : Field τ} {fs : Fields ts} : Place f (.cons f fs) := .here

instance {σ : Type} {f : Field τ} {g : Field σ} {fs : Fields ts} [p : Place f fs] :
    Place f (.cons g fs) := .there p

namespace Place

variable {f : Field τ}

/-- How many fields come before the one. -/
def index : {ts : List Type} → {fs : Fields ts} → Place f fs → Nat
  | _, _, .here => 0
  | _, _, .there p => p.index + 1

/-- A row with another value for the field. -/
def set : {ts : List Type} → {fs : Fields ts} → Place f fs → Row ts → τ → Row ts
  | _, _, .here, (_, vs), v => (v, vs)
  | _, _, .there p, (w, vs), v => (w, p.set vs v)

theorem getElem?_names {fs : Fields ts} (p : Place f fs) : fs.names[p.index]? = some f.name := by
  induction p with
  | here => rfl
  | there p ih => exact ih

theorem name_mem_names {fs : Fields ts} (p : Place f fs) : f.name ∈ fs.names :=
  List.mem_of_getElem? p.getElem?_names

/-- Names that are distinct have one index each. -/
theorem eq_index {fs : Fields ts} (p : Place f fs) (hnames : fs.names.Nodup) {i : Nat}
    (hi : fs.names[i]? = some f.name) : i = p.index := by
  obtain ⟨hlt, hget⟩ := List.getElem?_eq_some_iff.1 hi
  obtain ⟨hlt', hget'⟩ := List.getElem?_eq_some_iff.1 p.getElem?_names
  exact hnames.getElem_inj_iff.1 (hget.trans hget'.symm)

end Place

/-! ## A row is determined by what it is read from -/

theorem Field.takes_unique {f : Field τ} {depth : Nat} {ns : List (String × Document)} {v w : τ}
    (hv : f.Takes depth ns v) (hw : f.Takes depth ns w) : v = w := by
  cases hlookup : lookup f.name ns with
  | none =>
    rw [Field.takes_of_lookup_none hlookup] at hv hw
    exact Option.some_inj.1 (hv.symm.trans hw)
  | some d =>
    rw [Field.takes_of_lookup_some hlookup] at hv hw
    exact Except.ok.inj (hv.symm.trans hw)

namespace Fields

variable {fs : Fields ts} {depth : Nat} {ns ms : List (String × Document)} {ds : List Document}
  {r s : Row ts}

theorem takes_unique (hr : fs.Takes depth ns r) (hs : fs.Takes depth ns s) : r = s := by
  induction fs with
  | nil => rfl
  | cons f fs ih => exact Prod.ext (Field.takes_unique hr.1 hs.1) (ih hr.2 hs.2)

theorem takesInOrder_unique (hr : fs.TakesInOrder depth ds r) (hs : fs.TakesInOrder depth ds s) :
    r = s := by
  induction fs generalizing ds with
  | nil => rfl
  | cons f fs ih =>
    obtain ⟨v, vs⟩ := r
    obtain ⟨w, ws⟩ := s
    cases ds with
    | nil => exact Prod.ext (Option.some_inj.1 (hr.1.symm.trans hs.1)) (ih hr.2 hs.2)
    | cons d ds => exact Prod.ext (Except.ok.inj (hr.1.symm.trans hs.1)) (ih hr.2 hs.2)

/-! ## Another value for one field -/

variable {f : Field τ} {d : Document}

/-- With another value under the name of a field the fields take the row with what the field takes
instead. -/
theorem takes_replaced_iff (p : Place f fs) (hnames : fs.names.Nodup) (hr : fs.Takes depth ns r)
    (hname : lookup f.name ms = some d) (hothers : ∀ k ≠ f.name, lookup k ms = lookup k ns) :
    fs.Takes depth ms s ↔ ∃ v, f.read depth d = .ok v ∧ s = p.set r v := by
  induction p with
  | @here ts fs =>
    obtain ⟨hfirst, -⟩ := List.nodup_cons.1 hnames
    obtain ⟨v, vs⟩ := r
    obtain ⟨w, ws⟩ := s
    have hrest : fs.Takes depth ms ws ↔ fs.Takes depth ns ws :=
      takes_congr fun k hk => hothers k fun heq => hfirst (heq ▸ hk)
    -- The other fields take what they took before, so they have the values that they had.
    rw [Takes, Field.takes_of_lookup_some hname, hrest]
    constructor
    · rintro ⟨hw, hws⟩
      exact ⟨w, hw, Prod.ext rfl (takes_unique hws hr.2)⟩
    · rintro ⟨_, hw, heq⟩
      cases heq
      exact ⟨hw, hr.2⟩
  | @there σ ts g fs p ih =>
    obtain ⟨hfirst, hnames⟩ := List.nodup_cons.1 hnames
    obtain ⟨v, vs⟩ := r
    obtain ⟨w, ws⟩ := s
    have hne : g.name ≠ f.name := fun heq => hfirst (heq ▸ p.name_mem_names)
    have hhead : g.Takes depth ms w ↔ g.Takes depth ns w := by
      rw [Field.Takes, Field.Takes, hothers g.name hne]
    rw [Takes, hhead, ih hnames hr.2]
    constructor
    · rintro ⟨hw, u, hu, rfl⟩
      exact ⟨u, hu, Prod.ext (Field.takes_unique hw hr.1) rfl⟩
    · rintro ⟨u, hu, heq⟩
      cases heq
      exact ⟨hr.1, u, hu, rfl⟩

/-- The same of lists, with another value at the index of the field. -/
theorem takesInOrder_replaced_iff (p : Place f fs) (hr : fs.TakesInOrder depth ds r)
    (hindex : p.index < ds.length) :
    fs.TakesInOrder depth (ds.set p.index d) s ↔ ∃ v, f.read depth d = .ok v ∧ s = p.set r v := by
  induction p generalizing ds with
  | @here ts fs =>
    obtain ⟨v, vs⟩ := r
    obtain ⟨w, ws⟩ := s
    obtain ⟨e, ds, rfl⟩ := List.exists_cons_of_length_pos hindex
    constructor
    · rintro ⟨hw, hws⟩
      exact ⟨w, hw, Prod.ext rfl (takesInOrder_unique hws hr.2)⟩
    · rintro ⟨_, hw, heq⟩
      cases heq
      exact ⟨hw, hr.2⟩
  | @there σ ts g fs p ih =>
    obtain ⟨v, vs⟩ := r
    obtain ⟨w, ws⟩ := s
    obtain ⟨e, ds, rfl⟩ := List.exists_cons_of_length_pos (Nat.zero_lt_of_lt hindex)
    have hrest := ih (s := ws) hr.2 (Nat.lt_of_succ_lt_succ hindex)
    constructor
    · rintro ⟨hw, hws⟩
      obtain ⟨u, hu, rfl⟩ := hrest.1 hws
      exact ⟨u, hu, Prod.ext (Except.ok.inj (hw.symm.trans hr.1)) rfl⟩
    · rintro ⟨u, hu, heq⟩
      cases heq
      exact ⟨hr.1, hrest.2 ⟨u, hu, rfl⟩⟩

end Fields

/-! ## Records -/

namespace Record

variable {α : Type} [Record α] {f : Field τ} (p : Place f (fields (α := α))) {depth : Nat}
  {d : Document} {a b : α}

include p

/-- A record is read with another value under the name of a field, wherever that stands. -/
theorem read_members_replaced_iff (hnames : (fields (α := α)).names.Nodup)
    {ns ms : List (String × Document)}
    (ha : Wire.read (depth + 1) (.object (asMembers ns)) = .ok a)
    (hms : ms.Perm ((f.name, d) :: without f.name ns)) :
    Wire.read (depth + 1) (.object (asMembers ms)) = .ok b ↔
      ∃ v, f.read depth d = .ok v ∧ toRow b = p.set (toRow a) v := by
  obtain ⟨ns', heq, hsingle, hothers, htakes⟩ := (read_object_eq_ok_iff hnames).1 ha
  cases asMembers_injective heq
  have hsingle' : (fields (α := α)).IsSingle ms :=
    Fields.isSingle_of_perm hms.symm (Fields.isSingle_replaced p.name_mem_names hsingle)
  have hothers' : ∀ m ∈ ms, m.1 ∉ (fields (α := α)).names → m.2.skip = .ok () := by
    intro m hm hout
    obtain rfl | hm := List.mem_cons.1 (hms.mem_iff.1 hm)
    · exact absurd p.name_mem_names hout
    · exact hothers m (List.mem_of_mem_filter hm) hout
  have hreplaced := Fields.takes_replaced_iff p hnames htakes lookup_replaced_self
    (s := toRow b) (d := d) fun _ hk => lookup_replaced_of_ne hk
  rw [← hreplaced, ← Fields.takes_perm_iff hms hsingle', read_object_eq_ok_iff hnames]
  constructor
  · rintro ⟨ms', heq, -, -, h⟩
    rwa [asMembers_injective heq]
  · exact fun h => ⟨ms, rfl, hsingle', hothers', h⟩

/-- A record is read from a list with another value at the index of a field. -/
theorem read_items_replaced_iff {ds : List Document}
    (ha : Wire.read (depth + 1) (.list (.append ds .closed)) = .ok a)
    (hindex : p.index < ds.length) :
    Wire.read (depth + 1) (.list (.append (ds.set p.index d) .closed)) = .ok b ↔
      ∃ v, f.read depth d = .ok v ∧ toRow b = p.set (toRow a) v := by
  have hitems : ∀ {es : List Document} {c : α},
      Wire.read (depth + 1) (.list (.append es .closed)) = .ok c ↔
        fields.TakesInOrder depth es (toRow c) := by
    intro es c
    rw [read_list_eq_ok_iff]
    constructor
    · rintro ⟨es', heq, h⟩
      rwa [Items.append_closed_injective heq]
    · exact fun h => ⟨es, rfl, h⟩
  rw [hitems, Fields.takesInOrder_replaced_iff p (hitems.1 ha) hindex]

end Record

end WebhookClient.Json
