import Mathlib
import WebhookClient.Proofs.Json.Members
import WebhookClient.Records.Application
import WebhookClient.Records.Endpoint
import WebhookClient.Records.EventType

/-!
# Partial updates send what is set

A partial update has fields that can be set and fields that can also be cleared. What is written
for it has a member for just the fields that are set or cleared, `null` for those that are cleared,
and a field is read as left out, cleared or set as its member is missing, `null` or another value.
Main statement: `keepsChanges_patches`.
-/

set_option autoImplicit false

namespace WebhookClient.Json

/-! ## Changes -/

/-- A field of a partial update, by the name of its member. -/
inductive Change (α : Type) : Type 1 where
  /-- A field that can be set. -/
  | settable {τ : Type} [Wire τ] (name : String) (value : α → Option τ)
  /-- A field that can be set or cleared. -/
  | clearable {τ : Type} [Wire τ] (name : String) (value : α → Nullable τ)

namespace Change

variable {α : Type}

def name : Change α → String
  | @settable _ _ _ name _ => name
  | @clearable _ _ _ name _ => name

/-- The member that is written for a field, if any. -/
def member (p : α) : Change α → Option Json
  | @settable _ _ _ _ value =>
    match value p with
    | none => none
    | some v => some (Wire.write v)
  | @clearable _ _ _ _ value =>
    match value p with
    | .absent => none
    | .null => some .null
    | .value v => some (Wire.write v)

/-- A partial update clears a field. -/
def Clears (p : α) : Change α → Prop
  | @settable _ _ _ _ _ => False
  | @clearable _ _ _ _ value => value p = .null

/-- What a field is read as: left out if there is no member, cleared (or left out, if it can only be
set) if that is `null`, and set to what is read from any other member. -/
def IsReadFrom (depth : Nat) (found : Option Document) (p : α) : Change α → Prop
  | @settable _ _ _ _ value =>
    match found with
    | none => value p = none
    | some .null => value p = none
    | some d => ∃ v, Wire.read depth d = .ok v ∧ value p = some v
  | @clearable _ _ _ _ value =>
    match found with
    | none => value p = .absent
    | some .null => value p = .null
    | some d => ∃ v, Wire.read depth d = .ok v ∧ value p = .value v

end Change

/-- A record keeps its changes, in both directions. What is written has a member for just the fields
that are set or cleared, and that is `null` just if the field is cleared. An object is read just if
it is whole, has no two members for one field, and its other members can be skipped; then each
field is as its member says. -/
structure KeepsChanges (α : Type) [Record α] (changes : List (Change α)) : Prop where
  nodup : (changes.map (·.name)).Nodup
  writes : ∀ p : α, ∃ ms, encode p = (Json.object ms).toText ∧ (namesOf ms).Nodup ∧
    (∀ name ∈ namesOf ms, name ∈ changes.map (·.name)) ∧
    ∀ f ∈ changes, lookup f.name ms = f.member p ∧ (lookup f.name ms = some .null ↔ f.Clears p)
  reads : ∀ (s : String) (ms : Members), (Text.ofChars s.toList).root = .object ms → ∀ p : α,
    decode s = .ok p ↔ (Text.ofChars s.toList).complete = true ∧
      ∃ ns, ms = Flattened.asMembers ns ∧
        ((namesOf ns).filter (· ∈ changes.map (·.name))).Nodup ∧
        (∀ m ∈ ns, m.1 ∉ changes.map (·.name) → m.2.skip = .ok ()) ∧
        ∀ f ∈ changes, f.IsReadFrom (maxDepth - 1) (lookup f.name ns) p

/-! ## Fields as changes -/

/-- Changes and fields describe the same: optional fields can be set, nullable ones can also be
cleared. -/
inductive Describes {α : Type} :
    {ts : List Type} → List (Change α) → Fields ts → (α → Row ts) → Prop where
  | nil : Describes [] .nil fun _ => ()
  | settable {τ : Type} {ts : List Type} {cs : List (Change α)} {fs : Fields ts} {row : α → Row ts}
    [Wire τ] [NeverNull τ] (name : String) (value : α → Option τ) (h : Describes cs fs row) :
    Describes (.settable name value :: cs) (.cons (.optional name) fs) fun p => (value p, row p)
  | clearable {τ : Type} {ts : List Type} {cs : List (Change α)} {fs : Fields ts} {row : α → Row ts}
    [Wire τ] [NeverNull τ] (name : String) (value : α → Nullable τ) (h : Describes cs fs row) :
    Describes (.clearable name value :: cs) (.cons (.nullable name) fs) fun p => (value p, row p)

section

variable {τ : Type} [Wire τ] {depth : Nat} {d : Document}

/-- An optional value is read from a document that is not `null` as the value is. -/
theorem read_option_eq_ok_iff (hd : d ≠ .null) {o : Option τ} :
    Wire.read depth d = .ok o ↔ ∃ v, Wire.read depth d = .ok v ∧ o = some v := by
  rw [read_option_of_ne_null hd, map_eq_ok_iff]
  exact exists_congr fun v => and_congr_right' eq_comm

/-- A value that can be cleared is read as an optional one, for which `null` stands for none. -/
theorem read_nullable_eq_ok_iff {n : Nullable τ} :
    Wire.read depth d = .ok n ↔ ∃ o, Wire.read depth d = .ok o ∧ n = Nullable.ofOption o := by
  show (Wire.read depth d).map Nullable.ofOption = .ok n ↔ _
  rw [map_eq_ok_iff]
  exact exists_congr fun o => and_congr_right' eq_comm

end

namespace Change

variable {α τ : Type} [Wire τ] {name : String} {p : α} {depth : Nat}
  {ns : List (String × Document)}

theorem write_optional (value : α → Option τ) :
    (Field.optional name).write (value p) = (settable name value).member p := by
  show (value p).map Wire.write = match value p with
    | none => none
    | some v => some (Wire.write v)
  cases value p <;> rfl

theorem write_nullable (value : α → Nullable τ) :
    (Field.nullable name).write (value p) = (clearable name value).member p := by
  show (if (value p).isAbsent then none else some (Wire.write (value p))) = match value p with
    | .absent => none
    | .null => some .null
    | .value v => some (Wire.write v)
  cases value p <;> rfl

theorem takes_optional_iff (value : α → Option τ) :
    (Field.optional name).Takes depth ns (value p) ↔
      (settable name value).IsReadFrom depth (lookup name ns) p := by
  unfold Field.Takes IsReadFrom
  dsimp only [Field.optional]
  cases hfound : lookup name ns with
  | none => exact Option.some_inj.trans eq_comm
  | some d =>
    cases d with
    | null => exact (Except.ok.injEq _ _).to_iff.trans eq_comm
    | _ => exact read_option_eq_ok_iff (fun h => by cases h)

theorem takes_nullable_iff (value : α → Nullable τ) :
    (Field.nullable name).Takes depth ns (value p) ↔
      (clearable name value).IsReadFrom depth (lookup name ns) p := by
  unfold Field.Takes IsReadFrom
  dsimp only [Field.nullable]
  cases hfound : lookup name ns with
  | none => exact Option.some_inj.trans eq_comm
  | some d =>
    have hread : Wire.read depth d = .ok (value p) ↔ _ := read_nullable_eq_ok_iff
    cases d with
    | null =>
      refine hread.trans ⟨?_, fun h => ⟨none, rfl, h⟩⟩
      rintro ⟨o, ho, hvalue⟩
      cases ho
      exact hvalue
    | _ =>
      refine hread.trans ⟨?_, ?_⟩
      · rintro ⟨o, ho, hvalue⟩
        obtain ⟨v, hv, rfl⟩ := (read_option_eq_ok_iff (fun h => by cases h)).1 ho
        exact ⟨v, hv, hvalue⟩
      · rintro ⟨v, hv, hvalue⟩
        exact ⟨some v, (read_option_eq_ok_iff (fun h => by cases h)).2 ⟨v, hv, rfl⟩, hvalue⟩

/-- No value is written as `null`, so that `null` is left for what is cleared. -/
theorem member_settable_ne_null [NeverNull τ] (value : α → Option τ) :
    (settable name value).member p ≠ some .null := by
  rw [← write_optional]
  intro h
  obtain ⟨v, -, hnull⟩ := Option.map_eq_some_iff.1 h
  exact write_ne_null v hnull

theorem member_clearable_eq_null_iff [NeverNull τ] (value : α → Nullable τ) :
    (clearable name value).member p = some .null ↔ value p = .null := by
  show (match value p with
    | .absent => none
    | .null => some .null
    | .value v => some (Wire.write v)) = some Json.null ↔ _
  cases value p with
  | absent => simp
  | null => simp
  | value v => simp [write_ne_null]

end Change

namespace Describes

variable {α : Type} {ts : List Type} {cs : List (Change α)} {fs : Fields ts} {row : α → Row ts}

theorem names_eq (h : Describes cs fs row) : fs.names = cs.map (·.name) := by
  induction h with
  | nil => rfl
  | settable name value h ih => exact congrArg (name :: ·) ih
  | clearable name value h ih => exact congrArg (name :: ·) ih

theorem nodup_names (h : Describes cs fs row) (hnames : (cs.map (·.name)).Nodup) :
    fs.names.Nodup := by
  rw [h.names_eq]
  exact hnames

/-- The members that are written are those of the changes. -/
theorem write_eq (h : Describes cs fs row) (p : α) :
    fs.write (row p) = cs.filterMap fun f => (f.member p).map (f.name, ·) := by
  induction h with
  | nil => rfl
  | settable name value h ih =>
    rw [Fields.write, List.filterMap_cons, Change.write_optional, ih]
    cases (Change.settable name value).member p <;> rfl
  | clearable name value h ih =>
    rw [Fields.write, List.filterMap_cons, Change.write_nullable, ih]
    cases (Change.clearable name value).member p <;> rfl

/-- The fields take what the changes are read from. -/
theorem takes_iff (h : Describes cs fs row) {depth : Nat} {ns : List (String × Document)} {p : α} :
    fs.Takes depth ns (row p) ↔ ∀ f ∈ cs, f.IsReadFrom depth (lookup f.name ns) p := by
  induction h with
  | nil => exact iff_of_true trivial (List.forall_mem_nil _)
  | settable name value h ih =>
    rw [Fields.Takes, Change.takes_optional_iff, ih, List.forall_mem_cons]
    exact Iff.rfl
  | clearable name value h ih =>
    rw [Fields.Takes, Change.takes_nullable_iff, ih, List.forall_mem_cons]
    exact Iff.rfl

theorem member_eq_null_iff (h : Describes cs fs row) {f : Change α} (hf : f ∈ cs) (p : α) :
    f.member p = some .null ↔ f.Clears p := by
  induction h with
  | nil => cases hf
  | settable name value h ih =>
    obtain rfl | hf := List.mem_cons.1 hf
    · exact iff_of_false (Change.member_settable_ne_null value) id
    · exact ih hf
  | clearable name value h ih =>
    obtain rfl | hf := List.mem_cons.1 hf
    · exact Change.member_clearable_eq_null_iff value
    · exact ih hf

end Describes

/-- The member that is found under a name is that of the change of the name. -/
theorem lookup_filterMap {α : Type} {cs : List (Change α)} (hnames : (cs.map (·.name)).Nodup)
    {f : Change α} (hf : f ∈ cs) (p : α) :
    lookup f.name (cs.filterMap fun f => (f.member p).map (f.name, ·)) = f.member p := by
  induction cs with
  | nil => cases hf
  | cons g cs ih =>
    obtain ⟨hname, hnames⟩ := List.nodup_cons.1 hnames
    have hskip : ∀ f ∈ cs, g.name ≠ f.name := fun f hf heq =>
      hname (List.mem_map.2 ⟨f, hf, heq.symm⟩)
    rw [List.filterMap_cons]
    obtain rfl | hf := List.mem_cons.1 hf
    · cases hmember : f.member p with
      | some a => exact (lookup_cons _ _ _ _).trans (if_pos rfl)
      | none =>
        refine lookup_eq_none_iff.2 fun hmem => ?_
        obtain ⟨m, hm, heq⟩ := List.mem_map.1 hmem
        obtain ⟨g, hg, hgm⟩ := List.mem_filterMap.1 hm
        obtain ⟨a, -, rfl⟩ := Option.map_eq_some_iff.1 hgm
        exact hskip g hg heq.symm
    · cases hmember : g.member p with
      | some a => exact (lookup_cons _ _ _ _).trans ((if_neg (hskip f hf)).trans (ih hnames hf))
      | none => exact ih hnames hf

/-- A record whose fields describe changes of distinct names keeps them. -/
theorem Describes.keepsChanges {α : Type} [Record α] {changes : List (Change α)}
    (h : Describes changes (Record.fields (α := α)) Record.toRow)
    (hnames : (changes.map (·.name)).Nodup := by decide) : KeepsChanges α changes where
  nodup := hnames
  writes p := by
    refine ⟨Record.members p, rfl, Fields.nodup_namesOf_write (h.nodup_names hnames),
      fun name hname => ?_, ?_⟩
    · obtain ⟨m, hm, rfl⟩ := List.mem_map.1 hname
      rw [← h.names_eq]
      exact Fields.name_mem_of_mem_write hm
    · intro f hf
      have hlookup : lookup f.name (Record.members p) = f.member p := by
        rw [Record.members, h.write_eq]
        exact lookup_filterMap hnames hf p
      rw [hlookup]
      exact ⟨rfl, h.member_eq_null_iff hf p⟩
  reads s ms hroot p := by
    have hread : Wire.read maxDepth (.object ms) = .ok p ↔ _ :=
      Record.read_object_eq_ok_iff (h.nodup_names hnames)
    simp only [Fields.IsSingle, h.names_eq, h.takes_iff] at hread
    rw [decode_eq_ok_iff, hroot, and_comm]
    exact and_congr_right' hread

end WebhookClient.Json

namespace WebhookClient

open Json

/-! ## The partial updates -/

/-- The fields of a partial update of an application. -/
def ApplicationPatch.changes : List (Change ApplicationPatch) :=
  [.settable "name" (·.name), .clearable "rateLimit" (·.rateLimit), .clearable "uid" (·.uid),
    .settable "metadata" (·.metadata)]

/-- The fields of a partial update of an endpoint. -/
def EndpointPatch.changes : List (Change EndpointPatch) :=
  [.settable "url" (·.url), .settable "description" (·.description),
    .clearable "rateLimit" (·.rateLimit), .clearable "uid" (·.uid),
    .settable "disabled" (·.disabled), .clearable "filterTypes" (·.filterTypes),
    .clearable "channels" (·.channels), .clearable "secret" (·.secret),
    .settable "metadata" (·.metadata)]

/-- The fields of a partial update of an event type. -/
def EventTypePatch.changes : List (Change EventTypePatch) :=
  [.settable "description" (·.description), .settable "archived" (·.archived),
    .settable "deprecated" (·.deprecated), .clearable "schemas" (·.schemas),
    .clearable "featureFlag" (·.featureFlag), .clearable "groupName" (·.groupName)]

/-- Partial updates of applications, endpoints and event types keep their changes. -/
theorem keepsChanges_patches :
    KeepsChanges ApplicationPatch ApplicationPatch.changes ∧
      KeepsChanges EndpointPatch EndpointPatch.changes ∧
      KeepsChanges EventTypePatch EventTypePatch.changes := by
  refine ⟨Describes.keepsChanges ?_, Describes.keepsChanges ?_, Describes.keepsChanges ?_⟩
  · exact .settable _ _ <| .clearable _ _ <| .clearable _ _ <| .settable _ _ .nil
  · exact .settable _ _ <| .settable _ _ <| .clearable _ _ <| .clearable _ _ <| .settable _ _ <|
      .clearable _ _ <| .clearable _ _ <| .clearable _ _ <| .settable _ _ .nil
  · exact .settable _ _ <| .settable _ _ <| .settable _ _ <| .clearable _ _ <| .clearable _ _ <|
      .clearable _ _ .nil

/-- A field that is left out has no member, and one that is cleared has one that says so. -/
example : encode (⟨none, .null, .value "u", none⟩ : ApplicationPatch) =
    "\x7b\"rateLimit\":null,\"uid\":\"u\"\x7d" := by
  decide

end WebhookClient
