import Mathlib
import WebhookClient.Json.Flattened
import WebhookClient.Proofs.Json.Restored

/-!
# Records are read back

A record is read from the members that are written for it, in any order: each member goes to the
slot of its field, as no two fields have the same name, and a field that is left out takes the value
that it was left out for. A record with an inner one passes the members of that one on as they are.
Main statements: `Record.restored` and `Flattened.restored`.
-/

set_option autoImplicit false

namespace WebhookClient.Json

/-! ## Plain rows -/

/-- What it takes for the values of a row to be plain. -/
class inductive PlainRow : List Type → Type 1 where
  | nil : PlainRow []
  | cons {τ : Type} {ts : List Type} : Plain τ → PlainRow ts → PlainRow (τ :: ts)

instance PlainRow.ofNil : PlainRow [] := .nil

instance PlainRow.ofCons {τ : Type} {ts : List Type} [p : Plain τ] [ps : PlainRow ts] :
    PlainRow (τ :: ts) := .cons p ps

/-- All values of a row are plain. -/
def PlainRow.IsPlain : {ts : List Type} → PlainRow ts → Row ts → Prop
  | _, .nil, () => True
  | _, .cons p ps, (v, vs) => p.IsPlain v ∧ ps.IsPlain vs

/-- The values of a record are plain if its row is. -/
@[reducible] def Record.plain {α : Type} [Record α]
    (ps : PlainRow (types α) := by dsimp only [Record.types]; infer_instance) : Plain α where
  IsPlain a := ps.IsPlain (toRow a)

/-- The values of a record with an inner one are plain if that and its own row are. -/
@[reducible] def Flattened.plain {α ι : Type} [Record ι] [Flattened α ι] [p : Plain ι]
    (ps : PlainRow (types α) := by dsimp only [Flattened.types]; infer_instance) : Plain α where
  IsPlain a := p.IsPlain (toParts a).1 ∧ ps.IsPlain (toParts a).2

/-! ## Fields -/

/-- A plain value is read from the member that is written for it, and is the one that is taken
where no member is written for it. -/
class Field.Restored {τ : Type} [Plain τ] (f : Field τ) : Prop where
  hasLongs_write : ∀ {v : τ} {a : Json}, IsPlain v → f.write v = some a → a.HasLongs
  read_of_reorders : ∀ {v : τ} {a b : Json} {depth : Nat}, IsPlain v → f.write v = some a →
    a.FitsIn depth → Reorders a b → f.read depth (.ofJson b) = .ok v
  absent_of_write : ∀ {v : τ}, f.write v = none → f.absent = some v

/-- All fields of a record are restored. -/
class inductive Fields.Restored : {ts : List Type} → PlainRow ts → Fields ts → Prop where
  | nil : Fields.Restored .nil .nil
  | cons {τ : Type} {ts : List Type} [p : Plain τ] {ps : PlainRow ts} {f : Field τ}
      {fs : Fields ts} :
      f.Restored → Fields.Restored ps fs → Fields.Restored (.cons p ps) (.cons f fs)

instance : Fields.Restored PlainRow.ofNil .nil := .nil

instance {τ : Type} {ts : List Type} [p : Plain τ] {ps : PlainRow ts} {f : Field τ}
    {fs : Fields ts} [hf : f.Restored] [hfs : fs.Restored ps] :
    Fields.Restored PlainRow.ofCons (.cons f fs) := .cons hf hfs

namespace Field

variable {τ : Type} [Wire τ] {name : String}

theorem eq_absent_of_write_nullable {v : Nullable τ}
    (h : (nullable (τ := τ) name).write v = none) : v = .absent := by
  cases v with
  | absent => rfl
  | null => cases h
  | value w => cases h

theorem ofOption_toOption_of_write_nullable {v : Nullable τ} {a : Json}
    (h : (nullable (τ := τ) name).write v = some a) :
    Nullable.ofOption v.toOption = v ∧ Wire.write v.toOption = a := by
  cases v with
  | absent => cases h
  | null => exact ⟨rfl, Option.some.inj h⟩
  | value w => exact ⟨rfl, Option.some.inj h⟩

variable [Plain τ] [Json.Restored τ]

/-- A field that is written and read as its value is. -/
theorem restored_of_write_eq {f : Field τ} (hwrite : ∀ v, f.write v = some (Wire.write v))
    (hread : f.read = Wire.read) : f.Restored where
  hasLongs_write {v a} hv h := by
    rw [hwrite] at h
    cases h
    exact Json.hasLongs_write hv
  read_of_reorders {v a b depth} hv h hdepth hab := by
    rw [hwrite] at h
    cases h
    rw [hread]
    exact Json.read_of_reorders hv hdepth hab
  absent_of_write {v} h := by
    rw [hwrite] at h
    cases h

instance : (required (τ := τ) name).Restored := restored_of_write_eq (fun _ => rfl) rfl

instance {value : τ} : (defaulting name value).Restored := restored_of_write_eq (fun _ => rfl) rfl

instance [NeverNull τ] : (optional (τ := τ) name).Restored where
  hasLongs_write hv h := by
    obtain ⟨w, rfl, rfl⟩ := Option.map_eq_some_iff.1 h
    exact Json.hasLongs_write (v := w) (hv w rfl)
  read_of_reorders hv h hdepth hab := by
    obtain ⟨w, rfl, rfl⟩ := Option.map_eq_some_iff.1 h
    exact Json.read_of_reorders (v := some w) hv hdepth hab
  absent_of_write h := by
    rw [Option.map_eq_none_iff.1 h]
    rfl

instance [NeverNull τ] : (nullable (τ := τ) name).Restored where
  hasLongs_write {v a} hv h := by
    obtain ⟨-, rfl⟩ := ofOption_toOption_of_write_nullable h
    exact Json.hasLongs_write (v := v.toOption) hv
  read_of_reorders {v a b depth} hv h hdepth hab := by
    obtain ⟨hback, rfl⟩ := ofOption_toOption_of_write_nullable h
    have hread := Json.read_of_reorders (v := v.toOption) hv hdepth hab
    show (Wire.read depth (.ofJson b)).map Nullable.ofOption = _
    rw [hread]
    exact congrArg Except.ok hback
  absent_of_write h := by
    rw [eq_absent_of_write_nullable h]
    rfl

end Field

/-! ## Slots -/

namespace Fields

/-- The slots of a row when the members of some names have been read. -/
def slotsOf (done : List String) : {ts : List Type} → Fields ts → Row ts → Slots ts
  | _, .nil, () => ()
  | _, .cons f fs, (v, vs) =>
    (if f.name ∈ done then (f.write v).map fun _ => v else none, fs.slotsOf done vs)

theorem slotsOf_nil {ts : List Type} (fs : Fields ts) (r : Row ts) :
    fs.slotsOf [] r = fs.noSlots := by
  induction fs with
  | nil => rfl
  | cons f fs ih =>
    obtain ⟨v, vs⟩ := r
    rw [slotsOf, noSlots, if_neg List.not_mem_nil, ih]

theorem slotsOf_cons_of_not_mem {ts : List Type} {fs : Fields ts} {name : String}
    (h : name ∉ fs.names) (done : List String) (r : Row ts) :
    fs.slotsOf (name :: done) r = fs.slotsOf done r := by
  induction fs with
  | nil => rfl
  | cons f fs ih =>
    obtain ⟨hne, hnames⟩ := not_or.1 (mt List.mem_cons.2 h)
    have hdone : f.name ∈ name :: done ↔ f.name ∈ done :=
      List.mem_cons.trans (or_iff_right (Ne.symm hne))
    exact Prod.ext (if_congr hdone rfl rfl) (ih hnames r.2)

theorem filled_slotsOf {ts : List Type} {fs : Fields ts} {name : String} {done : List String}
    (h : name ∉ done) (r : Row ts) : fs.filled name (fs.slotsOf done r) = false := by
  induction fs with
  | nil => rfl
  | cons f fs ih =>
    obtain ⟨v, vs⟩ := r
    rw [slotsOf, filled]
    by_cases hname : f.name = name
    · rw [if_pos hname, if_neg (hname ▸ h)]
      rfl
    · rw [if_neg hname]
      exact ih vs

variable {ts : List Type} {ps : PlainRow ts} {fs : Fields ts} {r : Row ts} {depth : Nat}

/-- Once all members that are written have been read the row is complete. -/
theorem complete_slotsOf (hfs : fs.Restored ps) {done : List String}
    (hdone : ∀ m ∈ fs.write r, m.1 ∈ done) : fs.complete (fs.slotsOf done r) = .ok r := by
  induction hfs with
  | nil => rfl
  | @cons τ ts p ps f fs hf hfs ih =>
    obtain ⟨v, vs⟩ := r
    simp only [write] at hdone
    cases hw : f.write v with
    | some a =>
      rw [hw] at hdone
      obtain ⟨hname, hdone⟩ := List.forall_mem_cons.1 hdone
      simp only [slotsOf, complete, if_pos hname, hw, Option.map_some, ih hdone]
      rfl
    | none =>
      rw [hw] at hdone
      simp only [slotsOf, complete, hw, Option.map_none, ite_self, hf.absent_of_write hw, ih hdone]
      rfl

/-- The member of a field is read into its slot. -/
theorem store_slotsOf (hfs : fs.Restored ps) (hnames : fs.names.Nodup) (hr : ps.IsPlain r)
    {name : String} {a b : Json} (hm : (name, a) ∈ fs.write r) (ha : a.FitsIn depth)
    (hab : Reorders a b) (done : List String) :
    fs.store depth name (.ofJson b) (fs.slotsOf done r) = .ok (fs.slotsOf (name :: done) r) := by
  induction hfs with
  | nil => cases hm
  | @cons τ ts p ps f fs hf hfs ih =>
    obtain ⟨v, vs⟩ := r
    obtain ⟨hv, hvs⟩ := hr
    obtain ⟨hname, hnames⟩ := List.nodup_cons.1 hnames
    rw [slotsOf, slotsOf, store]
    by_cases hfield : f.name = name
    · subst hfield
      -- The later fields have other names, so the member is that of this field.
      have hw : f.write v = some a := by
        simp only [write] at hm
        split at hm
        · next c hc =>
          obtain hhead | hlater := List.mem_cons.1 hm
          · cases hhead
            exact hc
          · exact absurd (name_mem_of_mem_write hlater) hname
        · exact absurd (name_mem_of_mem_write hm) hname
      rw [if_pos rfl, hf.read_of_reorders hv hw ha hab, if_pos List.mem_cons_self, hw,
        slotsOf_cons_of_not_mem hname]
      rfl
    · have hlater : (name, a) ∈ fs.write vs := by
        simp only [write] at hm
        split at hm
        · obtain hhead | hlater := List.mem_cons.1 hm
          · exact absurd (Prod.mk.inj hhead).1.symm hfield
          · exact hlater
        · exact hm
      have hdone : f.name ∈ name :: done ↔ f.name ∈ done :=
        List.mem_cons.trans (or_iff_right hfield)
      rw [if_neg hfield, ih hnames hvs hlater]
      exact congrArg (fun s => Except.ok (s, _)) (if_congr hdone rfl rfl).symm

/-! ## Members -/

theorem hasLongs_of_mem_write (hfs : fs.Restored ps) (hr : ps.IsPlain r) {m : String × Json}
    (hm : m ∈ fs.write r) : m.2.HasLongs := by
  induction hfs with
  | nil => cases hm
  | @cons τ ts p ps f fs hf hfs ih =>
    obtain ⟨v, vs⟩ := r
    obtain ⟨hv, hvs⟩ := hr
    simp only [write] at hm
    split at hm
    · next a hw =>
      obtain rfl | hm := List.mem_cons.1 hm
      · exact hf.hasLongs_write hv hw
      · exact ih hvs hm
    · exact ih hvs hm

/-- The members of a row have the names of the fields, in their order, and so they are distinct. -/
theorem nodup_namesOf_write (hnames : fs.names.Nodup) : (namesOf (fs.write r)).Nodup := by
  refine List.Sublist.nodup ?_ hnames
  clear hnames
  induction fs with
  | nil => exact .slnil
  | cons f fs ih =>
    obtain ⟨v, vs⟩ := r
    simp only [write]
    split
    · exact ih.cons_cons f.name
    · exact ih.cons f.name

/-- The members that are not of the fields. -/
def foreign (fs : Fields ts) (ms : List (String × Json)) : List (String × Json) :=
  ms.filter fun m => m.1 ∉ fs.names

variable {other : Document → Except SyntaxError Unit}

theorem gather_member (slots : Slots ts) (k : String) (d : Document) (rest : Members) :
    fs.gather depth other slots (.member (.plain k) d rest) =
      if fs.filled k slots then .error (.duplicateMember k)
      else if k ∈ fs.names then
        fs.store depth k d slots >>= fun slots => fs.gather depth other slots rest
      else
        (other d).mapError .malformed >>= fun _ =>
          fs.gather depth other slots rest >>= fun r => .ok (r.1, (k, d) :: r.2) :=
  rfl

/-- A member of the row goes to its slot. -/
theorem gather_member_of_mem (hfs : fs.Restored ps) (hnames : fs.names.Nodup)
    (hr : ps.IsPlain r) {k : String} {a b : Json} (hm : (k, a) ∈ fs.write r)
    (ha : a.FitsIn depth) (hab : Reorders a b) {done : List String} (hk : k ∉ done)
    (rest : Members) :
    fs.gather depth other (fs.slotsOf done r) (.member (.plain k) (.ofJson b) rest) =
      fs.gather depth other (fs.slotsOf (k :: done) r) rest := by
  have hname : k ∈ fs.names := name_mem_of_mem_write hm
  rw [gather_member, filled_slotsOf hk, if_neg Bool.false_ne_true, if_pos hname,
    store_slotsOf hfs hnames hr hm ha hab]
  rfl

/-- A member of another name goes past the slots. -/
theorem gather_member_of_not_mem {k : String} {d : Document} (hname : k ∉ fs.names)
    (hother : other d = .ok ()) {done : List String} (hk : k ∉ done) (rest : Members) :
    fs.gather depth other (fs.slotsOf done r) (.member (.plain k) d rest) =
      fs.gather depth other (fs.slotsOf (k :: done) r) rest >>= fun r =>
        .ok (r.1, (k, d) :: r.2) := by
  rw [gather_member, filled_slotsOf hk, if_neg Bool.false_ne_true, if_neg hname, hother,
    slotsOf_cons_of_not_mem hname]
  rfl

/-- Members in any order go to their slots if they are of the row, and past them if they are of
other names. -/
theorem gather_ofMembers (hfs : fs.Restored ps) (hnames : fs.names.Nodup) (hr : ps.IsPlain r)
    {ms ns : List (String × Json)} (hns : List.Forall₂ (SameName Reorders) ms ns)
    (hms : ∀ m ∈ ms, m ∈ fs.write r ∨ m.1 ∉ fs.names) (hnodup : (namesOf ms).Nodup)
    (hdepth : ∀ m ∈ ms, m.2.FitsIn depth)
    (hother : ∀ m ∈ ms, m.1 ∉ fs.names → ∀ b, Reorders m.2 b → other (.ofJson b) = .ok ())
    (done : List String) (hdone : ∀ m ∈ ms, m.1 ∉ done) :
    ∃ done', (∀ m ∈ ms, m.1 ∈ done') ∧ done ⊆ done' ∧
      fs.gather depth other (fs.slotsOf done r) (Document.ofJson.ofMembers ns) =
        .ok (fs.slotsOf done' r, (fs.foreign ns).map fun m => (m.1, Document.ofJson m.2)) := by
  induction hns generalizing done with
  | nil => exact ⟨done, fun m hm => absurd hm List.not_mem_nil, fun _ => id, rfl⟩
  | @cons m n ms ns hmn hns ih =>
    cases hmn with
    | @mk k a b hab =>
      obtain ⟨hm, hms⟩ := List.forall_mem_cons.1 hms
      obtain ⟨hk, hnodup⟩ := List.nodup_cons.1 hnodup
      obtain ⟨ha, hdepth⟩ := List.forall_mem_cons.1 hdepth
      obtain ⟨hskip, hother⟩ := List.forall_mem_cons.1 hother
      obtain ⟨hnew, hdone⟩ := List.forall_mem_cons.1 hdone
      have hnext : ∀ m ∈ ms, m.1 ∉ k :: done := by
        intro m hm hmem
        have hname : m.1 ∈ namesOf ms := List.mem_map_of_mem hm
        obtain heq | hmem := List.mem_cons.1 hmem
        · rw [heq] at hname
          exact hk hname
        · exact hdone m hm hmem
      obtain ⟨done', hall, hsub, hgather⟩ := ih hms hnodup hdepth hother (k :: done) hnext
      refine ⟨done', List.forall_mem_cons.2 ⟨hsub List.mem_cons_self, hall⟩,
        fun x hx => hsub (List.mem_cons_of_mem k hx), ?_⟩
      rw [Document.ofJson.ofMembers]
      by_cases hname : k ∈ fs.names
      · have hown := hm.resolve_right fun h => h hname
        rw [gather_member_of_mem hfs hnames hr hown ha hab hnew, hgather, foreign, foreign,
          List.filter_cons_of_neg (by simpa using hname)]
      · rw [gather_member_of_not_mem hname (hskip hname b hab) hnew, hgather, foreign, foreign,
          List.filter_cons_of_pos (by simpa using hname)]
        rfl

/-- The members of a row, with others among them, in any order: the row is complete, and the others
come out beside it. -/
theorem exists_gather_of_perm (other : Document → Except SyntaxError Unit)
    (strange : List (String × Json)) (hfs : fs.Restored ps) (hnames : fs.names.Nodup)
    (hr : ps.IsPlain r) {ms ns : List (String × Json)}
    (hstrange : ∀ m ∈ strange, m.1 ∉ fs.names) (hnodup : (namesOf strange).Nodup)
    (hdepth : ∀ m ∈ strange ++ fs.write r, m.2.FitsIn depth)
    (hother : ∀ m ∈ strange, ∀ b, Reorders m.2 b → other (.ofJson b) = .ok ())
    (hperm : (strange ++ fs.write r).Perm ms) (hns : List.Forall₂ (SameName Reorders) ms ns) :
    ∃ slots, fs.complete slots = .ok r ∧
      fs.gather depth other fs.noSlots (Document.ofJson.ofMembers ns) =
        .ok (slots, (fs.foreign ns).map fun m => (m.1, Document.ofJson m.2)) := by
  have hsplit : ∀ m ∈ ms, m ∈ strange ∨ m ∈ fs.write r := fun m hm =>
    List.mem_append.1 (hperm.mem_iff.2 hm)
  have hmember : ∀ m ∈ ms, m ∈ fs.write r ∨ m.1 ∉ fs.names := fun m hm =>
    (hsplit m hm).symm.imp_right (hstrange m)
  have hall : (namesOf (strange ++ fs.write r)).Nodup := by
    rw [namesOf, List.map_append]
    refine List.nodup_append.2 ⟨hnodup, nodup_namesOf_write hnames, fun k hk l hl heq => ?_⟩
    obtain ⟨m, hm, rfl⟩ := List.mem_map.1 hk
    obtain ⟨m', hm', rfl⟩ := List.mem_map.1 hl
    exact hstrange m hm (heq ▸ name_mem_of_mem_write hm')
  have hskip : ∀ m ∈ ms, m.1 ∉ fs.names → ∀ b, Reorders m.2 b → other (.ofJson b) = .ok () :=
    fun m hm hforeign =>
      hother m ((hsplit m hm).resolve_right fun hown => hforeign (name_mem_of_mem_write hown))
  obtain ⟨done, hdone, -, hgather⟩ := gather_ofMembers hfs hnames hr hns hmember
    ((hperm.map _).nodup_iff.1 hall) (fun m hm => hdepth m (hperm.mem_iff.2 hm)) hskip []
    (fun _ _ => List.not_mem_nil)
  rw [slotsOf_nil] at hgather
  refine ⟨_, complete_slotsOf hfs fun m hm => hdone m ?_, hgather⟩
  exact hperm.mem_iff.1 (List.mem_append_right strange hm)

/-- A row is read from its members in any order. -/
theorem ofMembers_of_perm (hfs : fs.Restored ps) (hnames : fs.names.Nodup) (hr : ps.IsPlain r)
    (hdepth : ∀ m ∈ fs.write r, m.2.FitsIn depth) {ms ns : List (String × Json)}
    (hperm : (fs.write r).Perm ms) (hns : List.Forall₂ (SameName Reorders) ms ns) :
    fs.ofMembers depth (Document.ofJson.ofMembers ns) = .ok r := by
  obtain ⟨slots, hcomplete, hgather⟩ := exists_gather_of_perm Document.skip [] hfs hnames hr
    (List.forall_mem_nil _) .nil hdepth (List.forall_mem_nil _) hperm hns
  rw [ofMembers, hgather]
  exact hcomplete

end Fields

/-! ## Records -/

namespace Record

variable {α : Type} [Record α]

instance : NeverNull α where
  write_ne_null _ h := Json.noConfusion h

/-- A record whose fields are restored and have distinct names is restored. Both are found from
the list of the fields. -/
theorem restored {ps : PlainRow (types α)}
    (hfs : (fields (α := α)).Restored ps := by
      dsimp only [Record.fields, id, inferInstance]; infer_instance)
    (hnames : (fields (α := α)).names.Nodup := by decide) :
    @Json.Restored α _ (plain ps) :=
  let _ : Plain α := plain ps
  { hasLongs_write := fun hv =>
      .object fun _ hm => Fields.hasLongs_of_mem_write hfs hv hm
    read_of_reorders := by
      intro v a depth hv hdepth h
      obtain ⟨d, rfl, hmembers⟩ := fitsIn_object_iff.1 hdepth
      obtain ⟨ms, ns, rfl, hperm, hns⟩ := reorders_object_iff.1 h
      show (fields.ofMembers d (Document.ofJson.ofMembers ns)).map ofRow = _
      rw [Fields.ofMembers_of_perm hfs hnames hv hmembers hperm hns]
      exact congrArg Except.ok (ofRow_toRow v) }

end Record

/-! ## Records within records -/

namespace Flattened

theorem asMembers_map_ofJson (ms : List (String × Json)) :
    asMembers (ms.map fun m => (m.1, Document.ofJson m.2)) = Document.ofJson.ofMembers ms := by
  induction ms with
  | nil => rfl
  | cons m ms ih => exact congrArg (Members.member (.plain m.1) (.ofJson m.2)) ih

variable {α ι : Type} [Record ι] [Flattened α ι]

/-- Members that are not of the fields are those of the inner record. -/
theorem foreign_of_perm {fs : Fields (types α)} {inner own ms ns : List (String × Json)}
    (hinner : ∀ m ∈ inner, m.1 ∉ fs.names) (hown : ∀ m ∈ own, m.1 ∈ fs.names)
    (hperm : (inner ++ own).Perm ms) (hns : List.Forall₂ (SameName Reorders) ms ns) :
    inner.Perm (fs.foreign ms) ∧
      List.Forall₂ (SameName Reorders) (fs.foreign ms) (fs.foreign ns) := by
  constructor
  · have hfilter := hperm.filter fun m => decide (m.1 ∉ fs.names)
    have hnone : own.filter (fun m => decide (m.1 ∉ fs.names)) = [] :=
      List.filter_eq_nil_iff.2 fun m hm => by simpa using hown m hm
    have hall : inner.filter (fun m => decide (m.1 ∉ fs.names)) = inner :=
      List.filter_eq_self.2 fun m hm => by simpa using hinner m hm
    rw [List.filter_append, hnone, hall, List.append_nil] at hfilter
    exact hfilter
  · refine List.rel_filter (fun m n hmn => ?_) hns
    cases hmn with
    | mk _ => exact Iff.rfl

/-- The members of the inner record are passed on, and the row of the record is complete. -/
theorem exists_gather_of_perm {qs : PlainRow (types α)} (hfs : (fields (α := α)).Restored qs)
    (hnames : ((Record.fields (α := ι)).names ++ (fields (α := α)).names).Nodup) {v : α}
    (hv : qs.IsPlain (toParts v).2) {depth : Nat} (hdepth : ∀ m ∈ members v, m.2.FitsIn depth)
    {ms ns : List (String × Json)} (hperm : (members v).Perm ms)
    (hns : List.Forall₂ (SameName Reorders) ms ns) :
    ∃ slots others ms', fields.complete slots = .ok (toParts v).2 ∧
      (Record.members (toParts v).1).Perm ms' ∧
      List.Forall₂ (SameName Reorders) ms' others ∧
      fields.gather depth (fun d => (d.toJson depth).map fun _ => ()) (fields (α := α)).noSlots
          (Document.ofJson.ofMembers ns) =
        .ok (slots, others.map fun m => (m.1, Document.ofJson m.2)) := by
  obtain ⟨hinnerNames, hownNames, hapart⟩ := List.nodup_append.1 hnames
  have hstrange : ∀ m ∈ Record.members (toParts v).1, m.1 ∉ (fields (α := α)).names :=
    fun m hm hown => hapart _ (Fields.name_mem_of_mem_write hm) _ hown rfl
  have hother : ∀ m ∈ Record.members (toParts v).1, ∀ b, Reorders m.2 b →
      ((Document.ofJson b).toJson depth).map (fun _ => ()) = .ok () := by
    intro m hm b hb
    have hfits := (hdepth m (List.mem_append_left _ hm)).of_reorders hb
    obtain ⟨c, hc⟩ := Document.exists_toJson_ofJson hfits
    rw [hc]
    rfl
  obtain ⟨slots, hcomplete, hgather⟩ := Fields.exists_gather_of_perm
    (fun d => (d.toJson depth).map fun _ => ()) _ hfs hownNames hv hstrange
    (Fields.nodup_namesOf_write hinnerNames) hdepth hother hperm hns
  obtain ⟨hpermInner, hnsInner⟩ := foreign_of_perm hstrange
    (fun m hm => Fields.name_mem_of_mem_write hm) hperm hns
  exact ⟨slots, _, _, hcomplete, hpermInner, hnsInner, hgather⟩

/-- A record with an inner one is restored if the fields of both are, and all have distinct
names. -/
theorem restored {ps : PlainRow (Record.types ι)} {qs : PlainRow (types α)}
    (hinner : (Record.fields (α := ι)).Restored ps := by
      dsimp only [Record.fields, id, inferInstance]; infer_instance)
    (hfs : (fields (α := α)).Restored qs := by
      dsimp only [Flattened.fields, id, inferInstance]; infer_instance)
    (hnames : ((Record.fields (α := ι)).names ++ (fields (α := α)).names).Nodup := by decide) :
    @Json.Restored α _ (@plain α ι _ _ (Record.plain ps) qs) :=
  let _ : Plain ι := Record.plain ps
  let _ : Plain α := plain qs
  { hasLongs_write := fun hv =>
      .object fun _ hm => (List.mem_append.1 hm).elim
        (Fields.hasLongs_of_mem_write hinner hv.1) (Fields.hasLongs_of_mem_write hfs hv.2)
    read_of_reorders := by
      intro v a depth hv hdepth h
      obtain ⟨d, rfl, hmembers⟩ := fitsIn_object_iff.1 hdepth
      obtain ⟨ms, ns, rfl, hperm, hns⟩ := reorders_object_iff.1 h
      obtain ⟨slots, others, ms', hcomplete, hpermInner, hothers, hgather⟩ :=
        exists_gather_of_perm hfs hnames hv.2 hmembers hperm hns
      have hread := Fields.ofMembers_of_perm hinner (List.nodup_append.1 hnames).1 hv.1
        (List.forall_mem_append.1 hmembers).1 hpermInner hothers
      show ofMembers d (Document.ofJson.ofMembers ns) = _
      rw [ofMembers, hgather]
      show (fields.complete slots >>= fun row =>
        (Record.fields (α := ι)).ofMembers d (asMembers _) >>= fun inner =>
          .ok (ofParts (Record.ofRow inner, row))) = _
      rw [hcomplete, asMembers_map_ofJson, hread]
      show Except.ok (ofParts (Record.ofRow (Record.toRow (toParts v).1), (toParts v).2)) = _
      rw [Record.ofRow_toRow, Prod.mk.eta, ofParts_toParts] }

end Flattened

end WebhookClient.Json
