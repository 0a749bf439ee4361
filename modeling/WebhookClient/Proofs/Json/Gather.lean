import Mathlib
import WebhookClient.Proofs.Json.Object

/-!
# Gathering the members of a record

What the fields of a record take does not depend on the order of members or on members of other
names. Where the member of a required field is left away that field is reported as missing, and a
second member of a field is reported as a duplicate. Main statements: `exists_gather_of_takes`,
`exists_gather_without` and `gather_second`.
-/

set_option autoImplicit false

namespace WebhookClient.Json

open Flattened

variable {τ : Type} {ts : List Type}

namespace Field

variable {f : Field τ} {depth : Nat} {ns : List (String × Document)} {v : τ}

theorem takes_of_lookup_some {d : Document} (h : lookup f.name ns = some d) :
    f.Takes depth ns v ↔ f.read depth d = .ok v := by
  unfold Takes
  rw [h]

theorem takes_of_lookup_none (h : lookup f.name ns = none) :
    f.Takes depth ns v ↔ f.absent = some v := by
  unfold Takes
  rw [h]

/-- A required field takes what is read from its member, which must be there. -/
theorem takes_required_iff [Wire τ] {name : String} :
    (required name).Takes depth ns v ↔
      ∃ d, lookup name ns = some d ∧ Wire.read depth d = .ok v := by
  cases hlookup : lookup name ns with
  | none =>
    rw [takes_of_lookup_none hlookup]
    exact iff_of_false (fun h => by cases h) fun h => by
      obtain ⟨_, h, -⟩ := h
      cases h
  | some d =>
    rw [takes_of_lookup_some hlookup]
    constructor
    · exact fun h => ⟨d, rfl, h⟩
    · rintro ⟨_, heq, h⟩
      cases heq
      exact h

end Field

namespace Fields

/-- The field of a name cannot do without a member. -/
def Requires (name : String) : {ts : List Type} → Fields ts → Prop
  | _, .nil => False
  | _, .cons f fs => if f.name = name then f.absent = none else fs.Requires name

variable {fs : Fields ts} {depth : Nat} {k name : String} {d : Document}
  {ns ms before after : List (String × Document)} {r : Row ts}

/-! ## Members of the fields -/

theorem isSingle_iff : fs.IsSingle ns ↔ ∀ k ∈ fs.names, (namesOf ns).count k ≤ 1 := by
  rw [IsSingle, List.nodup_iff_count_le_one]
  refine forall_congr' fun k => ?_
  by_cases hk : k ∈ fs.names
  · rw [List.count_filter (by simpa using hk)]
    exact (imp_iff_right hk).symm
  · have hzero : ((namesOf ns).filter (· ∈ fs.names)).count k = 0 :=
      List.count_eq_zero.2 fun hmem => hk (by simpa using (List.mem_filter.1 hmem).2)
    rw [hzero]
    exact iff_of_true (Nat.zero_le 1) fun h => absurd h hk

theorem isSingle_of_perm (h : ns.Perm ms) (hns : fs.IsSingle ns) : fs.IsSingle ms := by
  have hnames : (namesOf ns).Perm (namesOf ms) := h.map _
  exact (hnames.filter _).nodup_iff.1 hns

theorem isSingle_of_sublist (h : ms.Sublist ns) (hns : fs.IsSingle ns) : fs.IsSingle ms := by
  have hnames : (namesOf ms).Sublist (namesOf ns) := h.map _
  exact List.Nodup.sublist (hnames.filter _) hns

/-- What stands under the name of a field may be replaced. -/
theorem isSingle_replaced (hname : name ∈ fs.names) (hns : fs.IsSingle ns) :
    fs.IsSingle ((name, d) :: without name ns) :=
  (isSingle_cons_of_mem hname).2
    ⟨lookup_eq_none_iff.1 lookup_without_self, isSingle_of_sublist List.filter_sublist hns⟩

/-- What the fields take depends on nothing but what stands under their names. -/
theorem takes_congr (h : ∀ k ∈ fs.names, lookup k ns = lookup k ms) :
    fs.Takes depth ns r ↔ fs.Takes depth ms r := by
  induction fs with
  | nil => exact Iff.rfl
  | cons f fs ih =>
    obtain ⟨v, vs⟩ := r
    obtain ⟨hf, hfs⟩ := List.forall_mem_cons.1 h
    rw [Takes, Takes, Field.Takes, Field.Takes, hf, ih hfs]

/-- The order of members is of no account to the fields. -/
theorem takes_perm_iff (h : ns.Perm ms) (hns : fs.IsSingle ns) :
    fs.Takes depth ns r ↔ fs.Takes depth ms r :=
  takes_congr fun k hk => lookup_eq_of_perm h (isSingle_iff.1 hns k hk)

theorem takes_of_perm (h : ns.Perm ms) (hns : fs.IsSingle ns) (hr : fs.Takes depth ns r) :
    fs.Takes depth ms r :=
  (takes_perm_iff h hns).1 hr

/-- Members fill slots if what stands under the names of fields can be read. -/
theorem exists_fills (hr : fs.Takes depth ns r)
    (h : ∀ k ∈ fs.names, ∀ d, lookup k ms = some d → lookup k ns = some d) :
    ∃ slots, fs.Fills depth ms fs.noSlots slots := by
  induction fs with
  | nil => exact ⟨(), trivial⟩
  | cons f fs ih =>
    obtain ⟨v, vs⟩ := r
    obtain ⟨hf, hfs⟩ := List.forall_mem_cons.1 h
    obtain ⟨slots, hslots⟩ := ih hr.2 hfs
    have hslot : ∃ slot, f.Fills depth ms none slot := by
      unfold Field.Fills
      cases hlookup : lookup f.name ms with
      | none => exact ⟨none, rfl⟩
      | some d =>
        have hread := hr.1
        rw [Field.Takes, hf d hlookup] at hread
        exact ⟨some v, rfl, v, hread, rfl⟩
    obtain ⟨slot, hslot⟩ := hslot
    exact ⟨(slot, slots), hslot, hslots⟩

theorem filled_of_fills {slots slots' : Slots ts} (h : fs.Fills depth ns slots slots')
    (hk : k ∈ fs.names) (hns : k ∈ namesOf ns) : fs.filled k slots' = true := by
  induction fs with
  | nil => cases hk
  | cons f fs ih =>
    obtain ⟨slot, slots⟩ := slots
    obtain ⟨slot', slots'⟩ := slots'
    rw [filled]
    by_cases hname : f.name = k
    · rw [if_pos hname]
      have hslot := h.1
      subst hname
      unfold Field.Fills at hslot
      cases hlookup : lookup f.name ns with
      | none => exact absurd hns (lookup_eq_none_iff.1 hlookup)
      | some d =>
        rw [hlookup] at hslot
        obtain ⟨-, v, -, rfl⟩ := hslot
        rfl
    · rw [if_neg hname]
      exact ih h.2 ((List.mem_cons.1 hk).resolve_left (Ne.symm hname))

theorem complete_cons_of_some {f : Field τ} {slot : Option τ} {slots : Slots ts} {v : τ}
    (h : slot.or f.absent = some v) :
    (Fields.cons f fs).complete (slot, slots) = fs.complete slots >>= fun vs => .ok (v, vs) := by
  obtain ⟨name, write, read, absent⟩ := f
  cases slot with
  | some w =>
    cases h
    rfl
  | none =>
    cases absent with
    | some w =>
      cases h
      rfl
    | none => cases h

theorem complete_cons_of_none {f : Field τ} {slots : Slots ts} (h : f.absent = none) :
    (Fields.cons f fs).complete (none, slots) = .error (.missingMember f.name) := by
  obtain ⟨name, write, read, absent⟩ := f
  cases h
  rfl

/-- What a slot that was empty holds is what the field takes. -/
theorem or_absent_of_fills {f : Field τ} {slot : Option τ} {v : τ}
    (hslot : f.Fills depth ns none slot) (hv : f.Takes depth ns v) : slot.or f.absent = some v := by
  unfold Field.Fills at hslot
  unfold Field.Takes at hv
  cases hlookup : lookup f.name ns with
  | none =>
    rw [hlookup] at hslot hv
    rw [hslot, hv]
    rfl
  | some d =>
    rw [hlookup] at hslot hv
    obtain ⟨-, w, hw, rfl⟩ := hslot
    rw [hv] at hw
    rw [Except.ok.inj hw]
    rfl

/-- Without the member of a required field the row is not complete, and that field is reported. -/
theorem complete_of_lacks {slots : Slots ts} (hr : fs.Takes depth ns r)
    (hslots : fs.Fills depth (without name ns) fs.noSlots slots) (hname : fs.Requires name) :
    fs.complete slots = .error (.missingMember name) := by
  induction fs with
  | nil => exact hname.elim
  | cons f fs ih =>
    obtain ⟨v, vs⟩ := r
    obtain ⟨slot, slots⟩ := slots
    obtain ⟨hslot, hslots⟩ := hslots
    rw [Requires] at hname
    split_ifs at hname with hfield
    · -- The slot of the field is still empty, and nothing is taken in its stead.
      subst hfield
      rw [Field.Fills, lookup_without_self] at hslot
      subst hslot
      exact complete_cons_of_none hname
    · have hv : f.Takes depth (without name ns) v := by
        rw [Field.Takes, lookup_without_of_ne hfield]
        exact hr.1
      rw [complete_cons_of_some (or_absent_of_fills hslot hv), ih hr.2 hslots hname]
      rfl

/-- Members of other names may be left away. -/
theorem isSingle_filter_iff {p : String → Prop} [DecidablePred p] (h : ∀ k ∈ fs.names, p k) :
    fs.IsSingle (ns.filter fun m => p m.1) ↔ fs.IsSingle ns := by
  have hnames : namesOf (ns.filter fun m => p m.1) = (namesOf ns).filter fun k => p k :=
    (List.filter_map (p := fun k => decide (p k))).symm
  rw [isSingle_iff, isSingle_iff, hnames]
  refine forall₂_congr fun k hk => ?_
  rw [List.count_filter (by simpa using h k hk)]

theorem takes_filter_iff {p : String → Prop} [DecidablePred p] (h : ∀ k ∈ fs.names, p k) :
    fs.Takes depth (ns.filter fun m => p m.1) r ↔ fs.Takes depth ns r :=
  takes_congr fun k hk => (lookup_filter p).trans (if_pos (h k hk))

/-! ## Gathering -/

variable {other : Document → Except SyntaxError Unit} {slots slots' : Slots ts}
  {others : List (String × Document)}

/-- Members that have been gathered leave their slots to those after them. -/
theorem gather_append (h : fs.gather depth other slots (asMembers ns) = .ok (slots', others)) :
    fs.gather depth other slots (asMembers (ns ++ ms)) =
      fs.gather depth other slots' (asMembers ms) >>= fun r => .ok (r.1, others ++ r.2) := by
  induction ns generalizing slots others with
  | nil =>
    cases h
    rw [List.nil_append]
    cases fs.gather depth other slots' (asMembers ms) <;> rfl
  | cons n ns ih =>
    obtain ⟨k, d⟩ := n
    rw [List.cons_append, gather_asMembers_cons]
    rw [gather_asMembers_cons] at h
    split_ifs at h ⊢ with hfilled hk
    · obtain ⟨stored, hstored, h⟩ := bind_eq_ok_iff.1 h
      rw [hstored]
      exact ih h
    · obtain ⟨_, hother, h⟩ := bind_eq_ok_iff.1 h
      obtain ⟨⟨rest, restOthers⟩, hrest, h⟩ := bind_eq_ok_iff.1 h
      cases h
      rw [hother, ih hrest]
      cases fs.gather depth other rest (asMembers ms) <;> rfl

section

variable (hnames : fs.names.Nodup)

include hnames

/-- Members that the fields take come to their slots, and the others come out. -/
theorem exists_gather_of_takes (hns : fs.IsSingle ns)
    (hother : ∀ m ∈ ns, m.1 ∉ fs.names → other m.2 = .ok ()) (hr : fs.Takes depth ns r) :
    ∃ slots, fs.gather depth other fs.noSlots (asMembers ns) =
        .ok (slots, ns.filter (·.1 ∉ fs.names)) ∧ fs.complete slots = .ok r := by
  obtain ⟨slots, hfills, hcomplete⟩ := exists_complete_iff.2 hr
  exact ⟨slots, (gather_asMembers_eq_ok_iff hnames).2 ⟨hns, hother, hfills, rfl⟩, hcomplete⟩

/-- Without the member of a required field all others come to their places. -/
theorem exists_gather_without (hns : fs.IsSingle ns)
    (hother : ∀ m ∈ ns, m.1 ∉ fs.names → other m.2 = .ok ()) (hr : fs.Takes depth ns r)
    (hname : fs.Requires name) :
    ∃ slots, fs.gather depth other fs.noSlots (asMembers (without name ns)) =
        .ok (slots, (without name ns).filter (·.1 ∉ fs.names)) ∧
      fs.complete slots = .error (.missingMember name) := by
  have hsub : (without name ns).Sublist ns := List.filter_sublist
  obtain ⟨slots, hfills⟩ : ∃ slots, fs.Fills depth (without name ns) fs.noSlots slots :=
    exists_fills hr fun k _ d hd => by
      by_cases hk : k = name
      · rw [hk, lookup_without_self] at hd
        cases hd
      · rwa [lookup_without_of_ne hk] at hd
  refine ⟨slots, ?_, complete_of_lacks hr hfills hname⟩
  exact (gather_asMembers_eq_ok_iff hnames).2
    ⟨isSingle_of_sublist hsub hns, fun m hm => hother m (hsub.subset hm), hfills, rfl⟩

/-- A second member of a field is reported. -/
theorem gather_second (hns : fs.IsSingle (before ++ after))
    (hother : ∀ m ∈ before, m.1 ∉ fs.names → other m.2 = .ok ())
    (hr : fs.Takes depth (before ++ after) r) (hk : k ∈ fs.names) (hbefore : k ∈ namesOf before) :
    fs.gather depth other fs.noSlots (asMembers (before ++ (k, d) :: after)) =
      .error (.duplicateMember k) := by
  obtain ⟨slots, hfills⟩ : ∃ slots, fs.Fills depth before fs.noSlots slots :=
    exists_fills hr fun k _ d hd => by
      rw [lookup_append, hd]
      rfl
  have hgather : fs.gather depth other fs.noSlots (asMembers before) = .ok (slots, _) :=
    (gather_asMembers_eq_ok_iff hnames).2
      ⟨isSingle_of_sublist (List.sublist_append_left _ _) hns, hother, hfills, rfl⟩
  rw [gather_append hgather, gather_asMembers_cons, if_pos (filled_of_fills hfills hk hbefore)]
  rfl

/-! ## Rows -/

theorem ofMembers_asMembers_eq_ok_iff :
    fs.ofMembers depth (asMembers ns) = .ok r ↔
      fs.IsSingle ns ∧ (∀ m ∈ ns, m.1 ∉ fs.names → m.2.skip = .ok ()) ∧ fs.Takes depth ns r := by
  rw [ofMembers_eq_ok_iff hnames]
  constructor
  · rintro ⟨ms, heq, h⟩
    rwa [asMembers_injective heq]
  · exact fun h => ⟨ns, rfl, h⟩

theorem ofMembers_without (h : fs.ofMembers depth (asMembers ns) = .ok r)
    (hname : fs.Requires name) :
    fs.ofMembers depth (asMembers (without name ns)) = .error (.missingMember name) := by
  obtain ⟨hns, hskip, hr⟩ := (ofMembers_asMembers_eq_ok_iff hnames).1 h
  obtain ⟨slots, hgather, hcomplete⟩ := exists_gather_without hnames hns hskip hr hname
  rw [ofMembers, hgather]
  exact hcomplete

theorem ofMembers_second (h : fs.ofMembers depth (asMembers (before ++ after)) = .ok r)
    (hk : k ∈ fs.names) (hbefore : k ∈ namesOf before) :
    fs.ofMembers depth (asMembers (before ++ (k, d) :: after)) = .error (.duplicateMember k) := by
  obtain ⟨hns, hskip, hr⟩ := (ofMembers_asMembers_eq_ok_iff hnames).1 h
  have hgather := gather_second (d := d) hnames hns
    (fun m hm => hskip m (List.mem_append_left _ hm)) hr hk hbefore
  rw [ofMembers, hgather]
  rfl

end

end Fields

end WebhookClient.Json
