import Mathlib
import WebhookClient.Proofs.Json.Fields

/-!
# What a record is read from

A record is read from the members of an object just if the object is whole and all its names can
be read, no two of them are the name of one field, the members of other names can be skipped, and
each field takes what it is given: the value of its member, or the one that it has without a
member. Where the members stand is of no account. Main statement: `ofMembers_eq_ok_iff`.
-/

set_option autoImplicit false

namespace WebhookClient.Json

variable {τ : Type} {ts : List Type}

/-! ## Members by name -/

section

variable {α : Type}

@[simp] theorem lookup_nil (name : String) : lookup name ([] : List (String × α)) = none := rfl

theorem lookup_cons (name k : String) (v : α) (ms : List (String × α)) :
    lookup name ((k, v) :: ms) = if k = name then some v else lookup name ms := by
  unfold lookup
  rw [List.find?_cons]
  by_cases h : k = name
  · simp [h]
  · simp [h]

theorem lookup_eq_none_iff {name : String} {ms : List (String × α)} :
    lookup name ms = none ↔ name ∉ namesOf ms := by
  induction ms with
  | nil => simp [namesOf]
  | cons m ms ih =>
    obtain ⟨k, v⟩ := m
    rw [lookup_cons, namesOf, List.map_cons, List.mem_cons, not_or, ← namesOf, ← ih]
    by_cases h : k = name
    · simp [h]
    · simp [h, Ne.symm h]

end

/-- The members of an object that can be read to its end, by name. -/
theorem gather_asMembers_cons {fs : Fields ts} {depth : Nat}
    {other : Document → Except SyntaxError Unit} {slots : Slots ts} {k : String} {d : Document}
    {ns : List (String × Document)} :
    fs.gather depth other slots (Flattened.asMembers ((k, d) :: ns)) =
      if fs.filled k slots then .error (.duplicateMember k)
      else if k ∈ fs.names then
        fs.store depth k d slots >>= fun slots =>
          fs.gather depth other slots (Flattened.asMembers ns)
      else
        (other d).mapError .malformed >>= fun _ =>
          fs.gather depth other slots (Flattened.asMembers ns) >>= fun r =>
            .ok (r.1, (k, d) :: r.2) :=
  Fields.gather_member slots k d (Flattened.asMembers ns)

/-- What a field is given by members: the value of its member, or the one that it has without. -/
def Field.Takes (f : Field τ) (depth : Nat) (ns : List (String × Document)) (v : τ) : Prop :=
  match lookup f.name ns with
  | some d => f.read depth d = .ok v
  | none => f.absent = some v

/-- What the slot of a field is after members, from what it was before. -/
def Field.Fills (f : Field τ) (depth : Nat) (ns : List (String × Document))
    (slot slot' : Option τ) : Prop :=
  match lookup f.name ns with
  | some d => slot = none ∧ ∃ v, f.read depth d = .ok v ∧ slot' = some v
  | none => slot' = slot

namespace Fields

/-- All fields of a row take what they are given. -/
def Takes (depth : Nat) (ns : List (String × Document)) :
    {ts : List Type} → Fields ts → Row ts → Prop
  | _, .nil, () => True
  | _, .cons f fs, (v, vs) => f.Takes depth ns v ∧ fs.Takes depth ns vs

/-- What all slots are after members. -/
def Fills (depth : Nat) (ns : List (String × Document)) :
    {ts : List Type} → Fields ts → Slots ts → Slots ts → Prop
  | _, .nil, (), () => True
  | _, .cons f fs, (s, ss), (s', ss') => f.Fills depth ns s s' ∧ fs.Fills depth ns ss ss'

/-- No two members have the name of one field. -/
def IsSingle (fs : Fields ts) (ns : List (String × Document)) : Prop :=
  ((namesOf ns).filter (· ∈ fs.names)).Nodup

variable {fs : Fields ts} {depth : Nat} {k : String} {d : Document}
  {ns : List (String × Document)}

/-! ## One member -/

theorem filled_of_not_mem (h : k ∉ fs.names) (slots : Slots ts) : fs.filled k slots = false := by
  induction fs with
  | nil => rfl
  | cons f fs ih =>
    obtain ⟨s, ss⟩ := slots
    obtain ⟨hne, hnames⟩ := not_or.1 (mt List.mem_cons.2 h)
    rw [filled, if_neg (Ne.symm hne)]
    exact ih hnames ss

theorem fills_nil_iff {slots slots' : Slots ts} :
    fs.Fills depth [] slots slots' ↔ slots = slots' := by
  induction fs with
  | nil => exact iff_of_true trivial rfl
  | cons f fs ih =>
    obtain ⟨s, ss⟩ := slots
    obtain ⟨s', ss'⟩ := slots'
    rw [Fills, ih, Prod.mk.injEq]
    exact and_congr_left' eq_comm

/-- A member of no field leaves the slots as they are. -/
theorem fills_cons_of_not_mem (h : k ∉ fs.names) (slots slots' : Slots ts) :
    fs.Fills depth ((k, d) :: ns) slots slots' ↔ fs.Fills depth ns slots slots' := by
  induction fs with
  | nil => exact Iff.rfl
  | cons f fs ih =>
    obtain ⟨s, ss⟩ := slots
    obtain ⟨s', ss'⟩ := slots'
    obtain ⟨hne, hnames⟩ := not_or.1 (mt List.mem_cons.2 h)
    refine and_congr ?_ (ih hnames ss ss')
    rw [Field.Fills, Field.Fills, lookup_cons, if_neg hne]

/-- The member of a field goes to the slot, which was empty and takes no other. -/
theorem fills_cons_of_mem (hnames : fs.names.Nodup) (hk : k ∈ fs.names)
    (slots slots' : Slots ts) :
    k ∉ namesOf ns ∧ fs.Fills depth ((k, d) :: ns) slots slots' ↔
      fs.filled k slots = false ∧
        ∃ stored, fs.store depth k d slots = .ok stored ∧ fs.Fills depth ns stored slots' := by
  induction fs with
  | nil => cases hk
  | cons f fs ih =>
    obtain ⟨s, ss⟩ := slots
    obtain ⟨s', ss'⟩ := slots'
    obtain ⟨hname, hnames⟩ := List.nodup_cons.1 hnames
    by_cases hfield : f.name = k
    · subst hfield
      rw [Fills, fills_cons_of_not_mem hname, Field.Fills, lookup_cons, if_pos rfl,
        ← lookup_eq_none_iff, filled, if_pos rfl, store, if_pos rfl]
      constructor
      · rintro ⟨hnone, ⟨rfl, v, hread, rfl⟩, hrest⟩
        refine ⟨rfl, (some v, ss), map_eq_ok_iff.2 ⟨v, hread, rfl⟩, ?_, hrest⟩
        rw [Field.Fills, hnone]
      · rintro ⟨hempty, stored, hstore, hfills⟩
        obtain ⟨v, hread, rfl⟩ := map_eq_ok_iff.1 hstore
        obtain ⟨hslot, hrest⟩ := hfills
        have hs : s = none := Option.isSome_eq_false_iff.1 hempty |> Option.isNone_iff_eq_none.1
        unfold Field.Fills at hslot
        -- A second member of the name would find the slot taken.
        cases hlookup : lookup f.name ns with
        | some other =>
          rw [hlookup] at hslot
          cases hslot.1
        | none =>
          rw [hlookup] at hslot
          exact ⟨rfl, ⟨hs, v, hread, hslot⟩, hrest⟩
    · have hlater : k ∈ fs.names := (List.mem_cons.1 hk).resolve_left (Ne.symm hfield)
      have hslot : f.Fills depth ((k, d) :: ns) s s' ↔ f.Fills depth ns s s' := by
        rw [Field.Fills, Field.Fills, lookup_cons, if_neg (Ne.symm hfield)]
      rw [Fills, hslot, and_left_comm, ih hnames hlater ss ss', filled, if_neg hfield, store,
        if_neg hfield]
      constructor
      · rintro ⟨hfirst, hempty, stored, hstore, hfills⟩
        exact ⟨hempty, (s, stored), map_eq_ok_iff.2 ⟨stored, hstore, rfl⟩, hfirst, hfills⟩
      · rintro ⟨hempty, stored, hstore, hfills⟩
        obtain ⟨rest, hrest, rfl⟩ := map_eq_ok_iff.1 hstore
        exact ⟨hfills.1, hempty, rest, hrest, hfills.2⟩

theorem isSingle_cons_of_mem (hk : k ∈ fs.names) :
    fs.IsSingle ((k, d) :: ns) ↔ k ∉ namesOf ns ∧ fs.IsSingle ns := by
  rw [IsSingle, namesOf, List.map_cons, List.filter_cons_of_pos (by simpa using hk),
    List.nodup_cons, List.mem_filter]
  simp [hk, IsSingle, namesOf]

theorem isSingle_cons_of_not_mem (hk : k ∉ fs.names) :
    fs.IsSingle ((k, d) :: ns) ↔ fs.IsSingle ns := by
  rw [IsSingle, namesOf, List.map_cons, List.filter_cons_of_neg (by simpa using hk)]
  exact Iff.rfl

/-! ## All members -/

variable {other : Document → Except SyntaxError Unit} {slots slots' : Slots ts}
  {others : List (String × Document)}

/-- Members that can all be read fill the slots of their fields, and the others come out beside
them. -/
theorem gather_asMembers_eq_ok_iff (hnames : fs.names.Nodup) :
    fs.gather depth other slots (Flattened.asMembers ns) = .ok (slots', others) ↔
      fs.IsSingle ns ∧ (∀ m ∈ ns, m.1 ∉ fs.names → other m.2 = .ok ()) ∧
        fs.Fills depth ns slots slots' ∧ others = ns.filter (·.1 ∉ fs.names) := by
  induction ns generalizing slots others with
  | nil =>
    rw [fills_nil_iff]
    constructor
    · intro h
      cases h
      exact ⟨.nil, List.forall_mem_nil _, rfl, rfl⟩
    · rintro ⟨-, -, rfl, rfl⟩
      rfl
  | cons m ns ih =>
    obtain ⟨k, d⟩ := m
    rw [gather_asMembers_cons]
    by_cases hk : k ∈ fs.names
    · -- The member of a field: it is stored, and the rest goes on from there.
      have hstore : k ∉ namesOf ns ∧ fs.Fills depth ((k, d) :: ns) slots slots' ↔ _ :=
        fills_cons_of_mem hnames hk slots slots'
      have hothers : ((k, d) :: ns).filter (·.1 ∉ fs.names) = ns.filter (·.1 ∉ fs.names) :=
        List.filter_cons_of_neg (by simpa using hk)
      rw [if_pos hk, isSingle_cons_of_mem hk, hothers, List.forall_mem_cons]
      constructor
      · intro h
        split_ifs at h with hfilled
        obtain ⟨stored, hstored, hrest⟩ := bind_eq_ok_iff.1 h
        obtain ⟨hsingle, hskip, hfills, heq⟩ := ih.1 hrest
        obtain ⟨hnew, hfills⟩ := hstore.2 ⟨Bool.eq_false_iff.2 hfilled, stored, hstored, hfills⟩
        exact ⟨⟨hnew, hsingle⟩, ⟨absurd hk, hskip⟩, hfills, heq⟩
      · rintro ⟨⟨hnew, hsingle⟩, ⟨-, hskip⟩, hfills, heq⟩
        obtain ⟨hempty, stored, hstored, hfills⟩ := hstore.1 ⟨hnew, hfills⟩
        rw [if_neg (Bool.eq_false_iff.1 hempty)]
        exact bind_eq_ok_iff.2 ⟨stored, hstored, ih.2 ⟨hsingle, hskip, hfills, heq⟩⟩
    · -- A member of another name: it is passed to `other`, and comes out before the rest.
      have hempty : ¬ fs.filled k slots = true := Bool.eq_false_iff.1 (filled_of_not_mem hk slots)
      have hothers : ((k, d) :: ns).filter (·.1 ∉ fs.names) =
          (k, d) :: ns.filter (·.1 ∉ fs.names) := List.filter_cons_of_pos (by simpa using hk)
      rw [if_neg hempty, if_neg hk, isSingle_cons_of_not_mem hk, fills_cons_of_not_mem hk, hothers,
        List.forall_mem_cons]
      constructor
      · intro h
        obtain ⟨⟨⟩, hother, h⟩ := bind_eq_ok_iff.1 h
        obtain ⟨⟨rest, restOthers⟩, hrest, h⟩ := bind_eq_ok_iff.1 h
        cases h
        obtain ⟨hsingle, hskip, hfills, rfl⟩ := ih.1 hrest
        exact ⟨hsingle, ⟨fun _ => mapError_eq_ok_iff.1 hother, hskip⟩, hfills, rfl⟩
      · rintro ⟨hsingle, ⟨hother, hskip⟩, hfills, rfl⟩
        exact bind_eq_ok_iff.2 ⟨(), mapError_eq_ok_iff.2 (hother hk),
          bind_eq_ok_iff.2 ⟨_, ih.2 ⟨hsingle, hskip, hfills, rfl⟩, rfl⟩⟩

/-- Only an object that is whole, and whose names can all be read, is gathered. -/
theorem exists_asMembers_of_gather : ∀ (ms : Members) {slots : Slots ts}
    {r : Slots ts × List (String × Document)}, fs.gather depth other slots ms = .ok r →
      ∃ ns, ms = Flattened.asMembers ns
  | .closed, _, _, _ => ⟨[], rfl⟩
  | .textEnds, _, _, h => by cases h
  | .separatorMissing, _, _, h => by cases h
  | .danglingComma, _, _, h => by cases h
  | .textEndsAfterComma, _, _, h => by cases h
  | .nameMissing _, _, _, h => by cases h
  | .colonMissing n e, _, _, h => by
    obtain ⟨k, -, h⟩ := bind_eq_ok_iff.1 h
    split_ifs at h
  | .member n d rest, slots, r, h => by
    obtain ⟨k, hk, h⟩ := bind_eq_ok_iff.1 h
    have hn : n = .plain k := by
      cases n with
      | plain s =>
        cases hk
        rfl
      | unreadable e => cases hk
      | broken f => cases hk
    have hrest : ∃ slots r, fs.gather depth other slots rest = .ok r := by
      split_ifs at h
      · obtain ⟨stored, -, h⟩ := bind_eq_ok_iff.1 h
        exact ⟨stored, r, h⟩
      · obtain ⟨-, -, h⟩ := bind_eq_ok_iff.1 h
        obtain ⟨r', h, -⟩ := bind_eq_ok_iff.1 h
        exact ⟨slots, r', h⟩
    obtain ⟨slots', r', h⟩ := hrest
    obtain ⟨ns, rfl⟩ := exists_asMembers_of_gather rest h
    exact ⟨(k, d) :: ns, by rw [hn]; rfl⟩

/-- A slot that is complete holds what has been read, or else what the field has without. -/
theorem complete_cons_eq_ok_iff {f : Field τ} {s : Option τ} {ss : Slots ts} {v : τ}
    {vs : Row ts} :
    (Fields.cons f fs).complete (s, ss) = .ok (v, vs) ↔
      s.or f.absent = some v ∧ fs.complete ss = .ok vs := by
  have hrest : ∀ w, (fs.complete ss >>= fun ws => .ok (w, ws)) = .ok (v, vs) ↔
      some w = some v ∧ fs.complete ss = .ok vs := by
    intro w
    rw [bind_eq_ok_iff]
    constructor
    · rintro ⟨ws, hws, h⟩
      cases h
      exact ⟨rfl, hws⟩
    · rintro ⟨h, hvs⟩
      cases h
      exact ⟨vs, hvs, rfl⟩
  obtain ⟨name, write, read, absent⟩ := f
  cases s with
  | some w => exact hrest w
  | none =>
    cases absent with
    | some w => exact hrest w
    | none =>
      refine iff_of_false (fun h => ?_) (fun h => ?_)
      · cases h
      · cases h.1

theorem exists_fills_none_iff {f : Field τ} {v : τ} :
    (∃ s, f.Fills depth ns none s ∧ s.or f.absent = some v) ↔ f.Takes depth ns v := by
  unfold Field.Fills Field.Takes
  cases lookup f.name ns with
  | some d =>
    constructor
    · rintro ⟨s, ⟨-, w, hread, rfl⟩, h⟩
      cases h
      exact hread
    · intro hread
      exact ⟨some v, ⟨rfl, v, hread, rfl⟩, rfl⟩
  | none =>
    constructor
    · rintro ⟨s, rfl, h⟩
      exact h
    · intro habsent
      exact ⟨none, rfl, habsent⟩

/-- Slots that were all empty are complete just if each field takes what it is given. -/
theorem exists_complete_iff {r : Row ts} :
    (∃ slots, fs.Fills depth ns fs.noSlots slots ∧ fs.complete slots = .ok r) ↔
      fs.Takes depth ns r := by
  induction fs with
  | nil => exact ⟨fun _ => trivial, fun _ => ⟨(), trivial, rfl⟩⟩
  | cons f fs ih =>
    obtain ⟨v, vs⟩ := r
    rw [Takes, ← ih, ← exists_fills_none_iff]
    constructor
    · rintro ⟨⟨s, ss⟩, ⟨hslot, hslots⟩, hcomplete⟩
      obtain ⟨hv, hvs⟩ := complete_cons_eq_ok_iff.1 hcomplete
      exact ⟨⟨s, hslot, hv⟩, ss, hslots, hvs⟩
    · rintro ⟨⟨s, hslot, hv⟩, ss, hslots, hvs⟩
      exact ⟨(s, ss), ⟨hslot, hslots⟩, complete_cons_eq_ok_iff.2 ⟨hv, hvs⟩⟩

/-- A row is read from an object just if that is whole, gives no field two members, and gives each
field its value. -/
theorem ofMembers_eq_ok_iff (hnames : fs.names.Nodup) {ms : Members} {r : Row ts} :
    fs.ofMembers depth ms = .ok r ↔
      ∃ ns, ms = Flattened.asMembers ns ∧ fs.IsSingle ns ∧
        (∀ m ∈ ns, m.1 ∉ fs.names → m.2.skip = .ok ()) ∧ fs.Takes depth ns r := by
  rw [ofMembers, bind_eq_ok_iff]
  constructor
  · rintro ⟨⟨slots, others⟩, hgather, hcomplete⟩
    obtain ⟨ns, rfl⟩ := exists_asMembers_of_gather ms hgather
    obtain ⟨hsingle, hskip, hfills, -⟩ := (gather_asMembers_eq_ok_iff hnames).1 hgather
    exact ⟨ns, rfl, hsingle, hskip, exists_complete_iff.1 ⟨slots, hfills, hcomplete⟩⟩
  · rintro ⟨ns, rfl, hsingle, hskip, htakes⟩
    obtain ⟨slots, hfills, hcomplete⟩ := exists_complete_iff.2 htakes
    exact ⟨(slots, _),
      (gather_asMembers_eq_ok_iff hnames).2 ⟨hsingle, hskip, hfills, rfl⟩, hcomplete⟩

end Fields

/-- A record is read from an object just if its row is read from the members. -/
theorem Record.read_object_eq_ok_iff {α : Type} [Record α]
    (hnames : (fields (α := α)).names.Nodup) {depth : Nat} {ms : Members} {a : α} :
    Wire.read (depth + 1) (.object ms) = .ok a ↔
      ∃ ns, ms = Flattened.asMembers ns ∧ (fields (α := α)).IsSingle ns ∧
        (∀ m ∈ ns, m.1 ∉ (fields (α := α)).names → m.2.skip = .ok ()) ∧
        fields.Takes depth ns (toRow a) := by
  rw [← Fields.ofMembers_eq_ok_iff hnames]
  refine map_eq_ok_iff.trans ⟨?_, fun h => ⟨toRow a, h, ofRow_toRow a⟩⟩
  rintro ⟨r, h, rfl⟩
  rw [toRow_ofRow]
  exact h

end WebhookClient.Json
