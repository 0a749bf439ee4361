import Mathlib
import WebhookClient.Proofs.Json.Gather

/-!
# Reading along fields

A type `IsReadAlong` a list of fields if an object is read as a value of it just when each field
takes what stands under its name, wherever that is; if a required field without a member is reported
as missing, and a second member of a field as a duplicate. A record is read along its fields. A
record with an inner one is read along the fields of both as if they were those of one record, so
that both are read from all members. Main statements: `Record.isReadAlong`, `Flattened.isReadAlong`
and `Flattened.decode_iff`.
-/

set_option autoImplicit false

namespace WebhookClient.Json

open Flattened

variable {ts us : List Type}

/-! ## Rows and fields after one another -/

/-- A row after another. -/
def Row.append : {ts us : List Type} → Row ts → Row us → Row (ts ++ us)
  | [], _, (), s => s
  | _ :: _, _, (v, vs), s => (v, Row.append vs s)

/-- The two rows that a row is made of. -/
def Row.split : {ts us : List Type} → Row (ts ++ us) → Row ts × Row us
  | [], _, s => ((), s)
  | _ :: _, _, (v, r) => ((v, (Row.split r).1), (Row.split r).2)

theorem Row.append_split (r : Row (ts ++ us)) :
    Row.append (Row.split r).1 (Row.split r).2 = r := by
  induction ts with
  | nil => rfl
  | cons τ ts ih =>
    obtain ⟨v, vs⟩ := r
    exact Prod.ext rfl (ih vs)

namespace Fields

/-- Fields after others. -/
def append : {ts us : List Type} → Fields ts → Fields us → Fields (ts ++ us)
  | _, _, .nil, gs => gs
  | _, _, .cons f fs, gs => .cons f (fs.append gs)

variable {fs : Fields ts} {gs : Fields us} {depth : Nat} {name : String}
  {ns : List (String × Document)} {r : Row ts} {s : Row us}

theorem names_append (fs : Fields ts) (gs : Fields us) :
    (fs.append gs).names = fs.names ++ gs.names := by
  induction fs with
  | nil => rfl
  | cons f fs ih => exact congrArg (f.name :: ·) ih

theorem takes_append_iff :
    (fs.append gs).Takes depth ns (Row.append r s) ↔ fs.Takes depth ns r ∧ gs.Takes depth ns s := by
  induction fs with
  | nil => exact (iff_of_eq (true_and _)).symm
  | cons f fs ih =>
    obtain ⟨v, vs⟩ := r
    exact (and_congr_right' ih).trans and_assoc.symm

theorem requires_append_iff : (fs.append gs).Requires name ↔
    if name ∈ fs.names then fs.Requires name else gs.Requires name := by
  induction fs with
  | nil => exact Iff.rfl
  | cons f fs ih =>
    by_cases hname : f.name = name
    · rw [append, Requires, if_pos hname, names, if_pos (hname ▸ List.mem_cons_self), Requires,
        if_pos hname]
    · have hmem : name ∈ (Fields.cons f fs).names ↔ name ∈ fs.names :=
        List.mem_cons.trans (or_iff_right (Ne.symm hname))
      rw [append, Requires, if_neg hname, ih, Requires, if_neg hname]
      exact iff_of_eq (if_congr hmem rfl rfl).symm

theorem isSingle_append_iff : (fs.append gs).IsSingle ns ↔ fs.IsSingle ns ∧ gs.IsSingle ns := by
  rw [isSingle_iff, isSingle_iff, isSingle_iff, names_append, List.forall_mem_append]

end Fields

/-! ## Types that are read along fields -/

/-- Objects are read as values of a type along fields: each field takes what stands under its name,
if no two members have that name, and all members pass. -/
structure IsReadAlong {α : Type} [Wire α] {ts : List Type} (fs : Fields ts) (toRow : α → Row ts)
    (Passes : Nat → String × Document → Prop) : Prop where
  nodup_names : fs.names.Nodup
  /-- Nothing but the fields is written. -/
  write_eq : ∀ a : α, ∃ ms, Wire.write a = .object ms ∧ ∀ m ∈ ms, m.1 ∈ fs.names
  /-- What the generic reader takes passes under any name. -/
  passes_of_toJson : ∀ {depth : Nat} {k : String} {d : Document} {a : Json},
    d.toJson depth = .ok a → Passes depth (k, d)
  read_eq_ok_iff : ∀ {depth : Nat} {ms : Members} {a : α},
    Wire.read (depth + 1) (.object ms) = .ok a ↔
      ∃ ns, ms = asMembers ns ∧ fs.IsSingle ns ∧ (∀ m ∈ ns, Passes depth m) ∧
        fs.Takes depth ns (toRow a)
  read_without : ∀ {depth : Nat} {ns : List (String × Document)} {a : α} {name : String},
    Wire.read (depth + 1) (.object (asMembers ns)) = .ok a → fs.Requires name →
      Wire.read (depth + 1) (.object (asMembers (without name ns))) =
        (.error (.missingMember name) : Except ReadError α)
  read_second : ∀ {depth : Nat} {before after : List (String × Document)} {a : α} {k : String}
    {d : Document}, Wire.read (depth + 1) (.object (asMembers (before ++ after))) = .ok a →
      k ∈ fs.names → k ∈ namesOf before → Passes depth (k, d) →
        Wire.read (depth + 1) (.object (asMembers (before ++ (k, d) :: after))) =
          (.error (.duplicateMember k) : Except ReadError α)

/-- A record is read along its fields; members of other names need only be skipped. -/
theorem Record.isReadAlong {α : Type} [Record α] (hnames : (fields (α := α)).names.Nodup) :
    IsReadAlong (fields (α := α)) toRow
      fun _ m => m.1 ∉ (fields (α := α)).names → m.2.skip = .ok () where
  nodup_names := hnames
  write_eq a := ⟨members a, rfl, fun _ hm => Fields.name_mem_of_mem_write hm⟩
  passes_of_toJson h _ := Document.skip_of_toJson _ h
  read_eq_ok_iff := Record.read_object_eq_ok_iff hnames
  read_without {depth ns a name} h hname := by
    obtain ⟨r, hr, -⟩ := map_eq_ok_iff.1 h
    show (fields.ofMembers depth (asMembers (without name ns))).map ofRow = _
    rw [Fields.ofMembers_without hnames hr hname]
    rfl
  read_second {depth before after a k d} h hk hbefore _ := by
    obtain ⟨r, hr, -⟩ := map_eq_ok_iff.1 h
    show (fields.ofMembers depth (asMembers (before ++ (k, d) :: after))).map ofRow = _
    rw [Fields.ofMembers_second hnames hr hk hbefore]
    rfl

/-! ## Records within records -/

namespace Flattened

variable {α ι : Type} [Record ι] [Flattened α ι]

/-- The fields of the inner record, and then its own. -/
def allFields (α : Type) {ι : Type} [Record ι] [Flattened α ι] :
    Fields (Record.types ι ++ types α) :=
  (Record.fields (α := ι)).append (fields (α := α))

/-- The values of all fields. -/
def toAll (a : α) : Row (Record.types ι ++ types α) :=
  Row.append (Record.toRow (toParts a).1) (toParts a).2

/-- The value with these values of all fields. -/
def ofAll (r : Row (Record.types ι ++ types α)) : α :=
  ofParts (Record.ofRow (Row.split r).1, (Row.split r).2)

theorem toAll_ofAll (r : Row (Record.types ι ++ types α)) : toAll (ofAll (α := α) r) = r := by
  rw [toAll, ofAll, toParts_ofParts, Record.toRow_ofRow, Row.append_split]

theorem names_allFields :
    (allFields α).names = (Record.fields (α := ι)).names ++ (fields (α := α)).names :=
  Fields.names_append _ _

/-- A member of another record is buffered, so that the generic reader must take it. -/
def IsBuffered (α : Type) {ι : Type} [Record ι] [Flattened α ι] (depth : Nat)
    (m : String × Document) : Prop :=
  m.1 ∉ (fields (α := α)).names → ∃ a, m.2.toJson depth = .ok a

/-- Buffers a value. -/
def buffer (depth : Nat) (d : Document) : Except SyntaxError Unit :=
  (d.toJson depth).map fun _ => ()

theorem buffer_eq_ok_iff {depth : Nat} {d : Document} :
    buffer depth d = .ok () ↔ ∃ a, d.toJson depth = .ok a := by
  rw [buffer, map_eq_ok_iff]
  exact exists_congr fun a => and_iff_left rfl

theorem forall_buffer_eq_ok {depth : Nat} {ns : List (String × Document)}
    (h : ∀ m ∈ ns, IsBuffered α depth m) :
    ∀ m ∈ ns, m.1 ∉ (fields (α := α)).names → buffer depth m.2 = .ok () :=
  fun m hm hout => buffer_eq_ok_iff.2 (h m hm hout)

theorem read_object_eq {depth : Nat} {ms : Members} :
    (Wire.read (depth + 1) (.object ms) : Except ReadError α) =
      (fields (α := α)).gather depth (buffer depth) (fields (α := α)).noSlots ms >>= fun r =>
        fields.complete r.1 >>= fun row =>
          (Record.fields (α := ι)).ofMembers depth (asMembers r.2) >>= fun inner =>
            .ok (ofParts (Record.ofRow inner, row)) :=
  rfl

/-- The members that are passed on to the inner record. -/
def passedOn (α : Type) {ι : Type} [Record ι] [Flattened α ι] (ns : List (String × Document)) :
    List (String × Document) :=
  ns.filter fun m => m.1 ∉ (fields (α := α)).names

theorem passedOn_append (ns ms : List (String × Document)) :
    passedOn α (ns ++ ms) = passedOn α ns ++ passedOn α ms :=
  List.filter_append _ _

section

variable (hnames : (allFields α).names.Nodup) {depth : Nat} {ns : List (String × Document)} {a : α}

include hnames

theorem nodup_names_own : (fields (α := α)).names.Nodup := by
  rw [names_allFields] at hnames
  exact (List.nodup_append.1 hnames).2.1

theorem nodup_names_inner : (Record.fields (α := ι)).names.Nodup := by
  rw [names_allFields] at hnames
  exact (List.nodup_append.1 hnames).1

theorem not_mem_own_of_mem_inner :
    ∀ k ∈ (Record.fields (α := ι)).names, k ∉ (fields (α := α)).names := by
  rw [names_allFields] at hnames
  exact fun k hk hown => (List.nodup_append.1 hnames).2.2 k hk k hown rfl

/-- Where the own fields take what stands there, the rest is up to the inner record. -/
theorem read_asMembers_eq_bind {r : Row (types α)} (hns : (fields (α := α)).IsSingle ns)
    (hbuffer : ∀ m ∈ ns, IsBuffered α depth m) (htakes : (fields (α := α)).Takes depth ns r) :
    (Wire.read (depth + 1) (.object (asMembers ns)) : Except ReadError α) =
      (Record.fields (α := ι)).ofMembers depth (asMembers (passedOn α ns)) >>= fun inner =>
        .ok (ofParts (Record.ofRow inner, r)) := by
  obtain ⟨slots, hgather, hcomplete⟩ := Fields.exists_gather_of_takes (nodup_names_own hnames) hns
    (forall_buffer_eq_ok hbuffer) htakes
  rw [read_object_eq, hgather]
  show (fields.complete slots >>= _) = _
  rw [hcomplete]
  rfl

theorem read_asMembers_eq_ok_iff :
    Wire.read (depth + 1) (.object (asMembers ns)) = .ok a ↔
      (fields (α := α)).IsSingle ns ∧ (∀ m ∈ ns, IsBuffered α depth m) ∧
        (fields (α := α)).Takes depth ns (toParts a).2 ∧
        (Record.fields (α := ι)).ofMembers depth (asMembers (passedOn α ns)) =
          .ok (Record.toRow (toParts a).1) := by
  have hown := nodup_names_own hnames
  constructor
  · intro h
    rw [read_object_eq] at h
    obtain ⟨⟨slots, others⟩, hgather, hrest⟩ := bind_eq_ok_iff.1 h
    obtain ⟨row, hcomplete, hlast⟩ := bind_eq_ok_iff.1 hrest
    obtain ⟨inner, hinner, hvalue⟩ := bind_eq_ok_iff.1 hlast
    obtain ⟨hns, hbuffer, hfills, rfl⟩ := (Fields.gather_asMembers_eq_ok_iff hown).1 hgather
    cases hvalue
    rw [toParts_ofParts, Record.toRow_ofRow]
    exact ⟨hns, fun m hm hout => buffer_eq_ok_iff.1 (hbuffer m hm hout),
      Fields.exists_complete_iff.1 ⟨slots, hfills, hcomplete⟩, hinner⟩
  · rintro ⟨hns, hbuffer, htakes, hinner⟩
    rw [read_asMembers_eq_bind hnames hns hbuffer htakes]
    refine bind_eq_ok_iff.2 ⟨_, hinner, ?_⟩
    rw [Record.ofRow_toRow, Prod.mk.eta, ofParts_toParts]

/-- A record with an inner one is read along the fields of both; the generic reader must take each
member that is not one of its own. -/
theorem isReadAlong : IsReadAlong (allFields α) toAll (IsBuffered α) where
  nodup_names := hnames
  write_eq a := by
    refine ⟨members a, rfl, fun m hm => ?_⟩
    rw [names_allFields]
    exact List.mem_append.2 ((List.mem_append.1 hm).imp Fields.name_mem_of_mem_write
      Fields.name_mem_of_mem_write)
  passes_of_toJson h _ := ⟨_, h⟩
  read_eq_ok_iff {depth ms a} := by
    have hout := not_mem_own_of_mem_inner hnames
    have hparts : ∀ ns, Wire.read (depth + 1) (.object (asMembers ns)) = .ok a ↔
        (allFields α).IsSingle ns ∧ (∀ m ∈ ns, IsBuffered α depth m) ∧
          (allFields α).Takes depth ns (toAll a) := by
      intro ns
      rw [read_asMembers_eq_ok_iff hnames,
        Fields.ofMembers_asMembers_eq_ok_iff (nodup_names_inner hnames), allFields, toAll,
        Fields.isSingle_append_iff, Fields.takes_append_iff, passedOn,
        Fields.isSingle_filter_iff hout, Fields.takes_filter_iff hout]
      constructor
      · rintro ⟨hns, hbuffer, htakes, hinner, -, htakesInner⟩
        exact ⟨⟨hinner, hns⟩, hbuffer, htakesInner, htakes⟩
      · rintro ⟨⟨hinner, hns⟩, hbuffer, htakesInner, htakes⟩
        refine ⟨hns, hbuffer, htakes, hinner, fun m hm _ => ?_, htakesInner⟩
        -- What has been buffered is skipped by the inner record.
        obtain ⟨hm, hout⟩ := List.mem_filter.1 hm
        obtain ⟨b, hb⟩ := hbuffer m hm (of_decide_eq_true hout)
        exact Document.skip_of_toJson _ hb
    constructor
    · intro h
      have h' := h
      rw [read_object_eq] at h'
      obtain ⟨_, hgather, -⟩ := bind_eq_ok_iff.1 h'
      obtain ⟨ns, rfl⟩ := Fields.exists_asMembers_of_gather ms hgather
      exact ⟨ns, rfl, (hparts ns).1 h⟩
    · rintro ⟨ns, rfl, h⟩
      exact (hparts ns).2 h
  read_without {depth ns a name} h hname := by
    obtain ⟨hns, hbuffer, htakes, hinner⟩ := (read_asMembers_eq_ok_iff hnames).1 h
    have hown := nodup_names_own hnames
    rw [allFields, Fields.requires_append_iff] at hname
    split_ifs at hname with hmem
    · -- The own row is complete, and it is the inner record that misses the member.
      have hother : ∀ k ∈ (fields (α := α)).names, k ≠ name := fun k hk heq =>
        not_mem_own_of_mem_inner hnames name hmem (heq ▸ hk)
      have hsub : (without name ns).Sublist ns := List.filter_sublist
      have hcomm : (without name ns).filter (fun m => m.1 ∉ (fields (α := α)).names) =
          without name (passedOn α ns) := List.filter_comm _ _ _
      rw [read_asMembers_eq_bind hnames (Fields.isSingle_of_sublist hsub hns)
        (fun m hm => hbuffer m (hsub.subset hm)) ((Fields.takes_filter_iff hother).2 htakes),
        passedOn, hcomm, Fields.ofMembers_without (nodup_names_inner hnames) hinner hname]
      rfl
    · obtain ⟨slots, hgather, hcomplete⟩ := Fields.exists_gather_without hown hns
        (forall_buffer_eq_ok hbuffer) htakes hname
      rw [read_object_eq, hgather]
      show (fields.complete slots >>= _) = _
      rw [hcomplete]
      rfl
  read_second {depth before after a k d} h hk hbefore hpasses := by
    obtain ⟨hns, hbuffer, htakes, hinner⟩ := (read_asMembers_eq_ok_iff hnames).1 h
    by_cases hmem : k ∈ (fields (α := α)).names
    · rw [read_object_eq, Fields.gather_second (nodup_names_own hnames) hns
        (forall_buffer_eq_ok fun m hm => hbuffer m (List.mem_append_left _ hm)) htakes hmem hbefore]
      rfl
    · -- The own row is complete, and it is the inner record that finds the second member.
      have hk : k ∈ (Record.fields (α := ι)).names := by
        rw [names_allFields] at hk
        exact (List.mem_append.1 hk).resolve_right hmem
      have hall : ∀ m ∈ before ++ (k, d) :: after, IsBuffered α depth m := by
        rw [List.forall_mem_append] at hbuffer ⊢
        exact ⟨hbuffer.1, List.forall_mem_cons.2 ⟨hpasses, hbuffer.2⟩⟩
      have hsplit : passedOn α (before ++ (k, d) :: after) =
          passedOn α before ++ (k, d) :: passedOn α after := by
        rw [passedOn_append]
        exact congrArg (passedOn α before ++ ·) (List.filter_cons_of_pos (by simpa using hmem))
      have hother : ∀ j ∈ (fields (α := α)).names, j ≠ k := fun j hj heq => hmem (heq ▸ hj)
      have hfirst : k ∈ namesOf (passedOn α before) := by
        obtain ⟨m, hm, rfl⟩ := List.mem_map.1 hbefore
        exact List.mem_map_of_mem (List.mem_filter.2 ⟨hm, decide_eq_true hmem⟩)
      rw [passedOn_append] at hinner
      rw [read_asMembers_eq_bind hnames (Fields.isSingle_of_perm List.perm_middle.symm
          ((Fields.isSingle_cons_of_not_mem hmem).2 hns)) hall
          ((Fields.takes_congr fun j hj => lookup_middle_of_ne (hother j hj)).2 htakes),
        hsplit, Fields.ofMembers_second (nodup_names_inner hnames) hinner hk hfirst]
      rfl

end

end Flattened

/-! ## Members that the generic reader takes -/

section

variable {s : String} {ns : List (String × Document)} (hs : SaysObject s ns)
  (hnames : (namesOf ns).Nodup) (hjson : ∀ m ∈ ns, m.2.IsJson)

include hs hnames hjson

/-- A type that is read along fields is read from an object just if the fields take what stands
there, where names are distinct and the generic reader takes each value. -/
theorem IsReadAlong.decode_iff_takes {α : Type} [Wire α] {ts : List Type} {fs : Fields ts}
    {toRow : α → Row ts} {Passes : Nat → String × Document → Prop}
    (h : IsReadAlong fs toRow Passes) {a : α} :
    decode s = .ok a ↔ fs.Takes (maxDepth - 1) ns (toRow a) := by
  rw [decode_of_saysObject hs]
  constructor
  · intro hread
    obtain ⟨ns', heq, -, -, htakes⟩ := h.read_eq_ok_iff.1 hread
    rwa [asMembers_injective heq]
  · intro htakes
    have hsingle : fs.IsSingle ns :=
      Fields.isSingle_iff.2 fun k _ => List.nodup_iff_count_le_one.1 hnames k
    refine h.read_eq_ok_iff.2 ⟨ns, rfl, hsingle, fun m hm => ?_, htakes⟩
    obtain ⟨b, hb⟩ := hjson m hm
    exact h.passes_of_toJson hb

/-- A record that holds another one is read just if both are, each from all members. -/
theorem Flattened.decode_iff {α ι : Type} [Record ι] [Flattened α ι]
    (hall : (allFields α).names.Nodup) {a : α} :
    decode s = .ok a ↔ decode s = .ok (toParts a).1 ∧
      (fields (α := α)).Takes (maxDepth - 1) ns (toParts a).2 := by
  rw [(Flattened.isReadAlong hall).decode_iff_takes hs hnames hjson,
    (Record.isReadAlong (nodup_names_inner hall)).decode_iff_takes hs hnames hjson]
  exact Fields.takes_append_iff

end

/-- The members that are written for a record that holds another one have distinct names. -/
theorem Flattened.nodup_namesOf_members {α ι : Type} [Record ι] [Flattened α ι]
    (hall : (allFields α).names.Nodup) (a : α) : (namesOf (members a)).Nodup := by
  rw [members, namesOf, List.map_append]
  refine List.nodup_append.2 ⟨Fields.nodup_namesOf_write (nodup_names_inner hall),
    Fields.nodup_namesOf_write (nodup_names_own hall), ?_⟩
  rintro _ hk _ hl rfl
  obtain ⟨m, hm, rfl⟩ := List.mem_map.1 hk
  obtain ⟨n, hn, hname⟩ := List.mem_map.1 hl
  refine not_mem_own_of_mem_inner hall m.1 (Fields.name_mem_of_mem_write hm) ?_
  rw [← hname]
  exact Fields.name_mem_of_mem_write hn

end WebhookClient.Json
