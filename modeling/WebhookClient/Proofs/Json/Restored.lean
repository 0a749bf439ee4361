import Mathlib
import WebhookClient.Json.Enumeration
import WebhookClient.Proofs.Instant.Text
import WebhookClient.Proofs.Json.Decode
import WebhookClient.Proofs.Json.Faithful
import WebhookClient.Proofs.Json.Reader

/-!
# Types whose values are read back

A type is `Restored` if each plain value of it is read from what is written for it, in whatever
order the members of objects are put down. A value of any kind is plain if its numbers are integers
of 64 bits and its members stand in order; values of all other types are plain as far as the values
of any kind within them are. The simple types are restored, and so are lists, dictionaries and
optional values of types that are. Main statements: `decode_of_reorders` and `decode_encode`.
-/

set_option autoImplicit false

namespace WebhookClient.Json

/-- A type in whose values there may be values of any kind. -/
class Plain (α : Type) where
  /-- All values of any kind within a value have integers of 64 bits only and members in order. -/
  IsPlain : α → Prop

/-- Plain values of the type are read from what is written for them. -/
class Restored (α : Type) [Wire α] [Plain α] : Prop where
  hasLongs_write : ∀ {v : α}, Plain.IsPlain v → (Wire.write v).HasLongs
  read_of_reorders : ∀ {v : α} {a : Json} {depth : Nat}, Plain.IsPlain v →
    (Wire.write v).FitsIn depth → Reorders (Wire.write v) a → Wire.read depth (.ofJson a) = .ok v

export Plain (IsPlain)
export Restored (hasLongs_write read_of_reorders)

section

variable {α : Type} [Wire α] [Plain α] [Restored α] {v : α}

/-- A plain value is read from its text with the members of objects in any order, if it does not
nest too deep. -/
theorem decode_of_reorders {a : Json} (hv : IsPlain v) (hdepth : (Wire.write v).FitsIn maxDepth)
    (h : Reorders (Wire.write v) a) : decode a.toText = .ok v :=
  (decode_toText_iff ((hasLongs_write hv).of_reorders h)).2 (read_of_reorders hv hdepth h)

/-- A plain value is read from its text, if it does not nest too deep. -/
theorem decode_encode (hv : IsPlain v) (hdepth : (Wire.write v).FitsIn maxDepth) :
    decode (encode v) = .ok v :=
  decode_of_reorders hv hdepth (.refl _)

end

/-! ## Simple types -/

instance : Plain Json where
  IsPlain a := a.HasLongs ∧ a.IsSorted

instance : Restored Json where
  hasLongs_write h := h.1
  read_of_reorders hv hdepth h :=
    mapError_eq_ok_iff.2 (Document.toJson_of_reorders hv.2 hdepth h)

instance : Plain Bool where
  IsPlain _ := True

instance : Restored Bool where
  hasLongs_write _ := .bool _
  read_of_reorders _ _ h := by
    cases h
    rfl

instance : Plain String where
  IsPlain _ := True

instance : Restored String where
  hasLongs_write _ := .string _
  read_of_reorders _ _ h := by
    cases h
    rfl

instance : Plain Instant where
  IsPlain _ := True

instance : Restored Instant where
  hasLongs_write _ := .string _
  read_of_reorders {t a depth} _ _ h := by
    cases h
    exact mapError_eq_ok_iff.2 (Instant.ofText_toText t)

/-! ## Bounded integers and enumerations -/

/-- All ranges are of integers of 64 bits. -/
theorem Bounded.isLong {w : Width} (b : Bounded w) : IsLong b.value := by
  obtain ⟨hleast, hgreatest⟩ := b.inRange
  unfold IsLong
  cases w <;> simp only [Width.least, Width.greatest] at hleast hgreatest <;> omega

instance {w : Width} : Plain (Bounded w) where
  IsPlain _ := True

instance {w : Width} : Restored (Bounded w) where
  hasLongs_write {b} _ := .int b.isLong
  read_of_reorders {b a depth} _ _ h := by
    cases h
    show (match Bounded.ofInt? w b.value with
      | some c => .ok c
      | none => .error (.wrongValue (.number (.int b.value)) w.title) :
        Except ReadError (Bounded w)) = .ok b
    rw [Bounded.ofInt?_value]

instance {α : Type} [Named α] : Plain α where
  IsPlain _ := True

instance {α : Type} [Named α] : Restored α where
  hasLongs_write _ := .string _
  read_of_reorders {v a depth} _ _ h := by
    cases h
    show Named.get (Named.name v) = .ok v
    rw [Named.get, Named.ofName?_name]

instance {α : Type} [Named α] : NeverNull α where
  write_ne_null _ h := Json.noConfusion h

instance {α : Type} [Coded α] : Plain α where
  IsPlain _ := True

instance {α : Type} [Coded α] : Restored α where
  hasLongs_write {v} _ := .int (Coded.code v).isLong
  read_of_reorders {v a depth} _ hdepth h := by
    have hcode : Wire.read depth (.ofJson a) = .ok (Coded.code v) :=
      read_of_reorders (v := Coded.code v) trivial hdepth h
    show (Wire.read depth (.ofJson a) >>= _) = _
    rw [hcode]
    show (match Coded.ofCode? (α := α) (Coded.code v) with
      | some w => .ok w
      | none => .error (.unknownCode (Coded.code v).value (Coded.title α)) :
        Except ReadError α) = .ok v
    rw [Coded.ofCode?_code]

instance {α : Type} [Coded α] : NeverNull α where
  write_ne_null _ h := Json.noConfusion h

/-! ## Lists and dictionaries -/

section

variable {α : Type} [Wire α]

theorem Items.readAll_ofItems {depth : Nat} {vs : List α} {as : List Json}
    (h : List.Forall₂ (fun v a => Wire.read depth (.ofJson a) = .ok v) vs as) :
    (Document.ofJson.ofItems as).readAll (Wire.read depth) = .ok vs := by
  induction h with
  | nil => rfl
  | cons hv _ ih =>
    rw [Document.ofJson.ofItems, readAll, hv, ih]
    rfl

/-- The entries that are read are inserted one after the other. -/
theorem Members.readAll_ofMembers {depth : Nat} {entries : List (String × α)}
    {ms : List (String × Json)}
    (h : List.Forall₂ (SameName fun v a => Wire.read depth (.ofJson a) = .ok v) entries ms)
    (sofar d : Dict α) (hd : d.entries = insertAll sofar.entries entries) :
    (Document.ofJson.ofMembers ms).readAll (Wire.read depth) sofar = .ok d := by
  induction h generalizing sofar with
  | nil =>
    rw [Dict.ext_entries hd]
    rfl
  | @cons e m entries ms hem _ ih =>
    cases hem with
    | @mk k v a hv =>
      rw [Document.ofJson.ofMembers, readAll, hv]
      exact ih (sofar.insert k v) hd

variable [Plain α]

instance : Plain (List α) where
  IsPlain vs := ∀ v ∈ vs, IsPlain v

instance [Restored α] : Restored (List α) where
  hasLongs_write h := .list (List.forall_mem_map.2 fun v hv => hasLongs_write (h v hv))
  read_of_reorders {vs a depth} hvs hdepth h := by
    obtain ⟨d, rfl, hitems⟩ := fitsIn_list_iff.1 hdepth
    obtain ⟨as, rfl, has⟩ := reorders_list_iff.1 h
    rw [List.forall₂_map_left_iff] at has
    exact Items.readAll_ofItems (forall₂_of_forall_mem has fun v hv _ =>
      read_of_reorders (hvs v hv) (List.forall_mem_map.1 hitems v hv))

instance : Plain (Dict α) where
  IsPlain d := ∀ e ∈ d.entries, IsPlain e.2

instance [Restored α] : Restored (Dict α) where
  hasLongs_write h := .object (List.forall_mem_map.2 fun e he => hasLongs_write (h e he))
  read_of_reorders {dict a depth} hdict hdepth h := by
    obtain ⟨d, rfl, hmembers⟩ := fitsIn_object_iff.1 hdepth
    obtain ⟨ms, ns, rfl, hperm, hns⟩ := reorders_object_iff.1 h
    -- The members are those of the entries in some order.
    obtain ⟨entries, rfl, hentries⟩ := (congrFun₂ (List.eq_map_comp_perm _) _ _).mpr hperm.symm
    have hread : List.Forall₂ (SameName fun v a => Wire.read d (.ofJson a) = .ok v) entries ns := by
      refine forall₂_of_forall_mem (List.forall₂_map_left_iff.1 hns) fun e he n hen => ?_
      have he' := hentries.mem_iff.1 he
      cases hen with
      | mk hab =>
        exact .mk (read_of_reorders (hdict _ he') (List.forall_mem_map.1 hmembers _ he') hab)
    exact Members.readAll_ofMembers hread .empty dict
      (insertAll_eq_of_perm dict.sorted [] .nil hentries).symm

end

/-! ## Optional values -/

section

variable {α : Type} [Wire α]

theorem Document.ofJson_ne_null {a b : Json} (ha : a ≠ .null) (h : Reorders a b) :
    ofJson b ≠ .null := by
  cases h with
  | null => exact absurd rfl ha
  | _ => exact fun hd => by cases hd

theorem read_option_of_ne_null {depth : Nat} {d : Document} (h : d ≠ .null) :
    (Wire.read depth d : Except ReadError (Option α)) = (Wire.read depth d).map some := by
  cases d with
  | null => exact absurd rfl h
  | _ => rfl

variable [Plain α]

instance : Plain (Option α) where
  IsPlain o := ∀ v ∈ o, IsPlain v

/-- A value is told from none because no value is written as `null`. -/
instance [NeverNull α] [Restored α] : Restored (Option α) where
  hasLongs_write {o} h := by
    cases o with
    | none => exact .null
    | some v => exact hasLongs_write (v := v) (h v rfl)
  read_of_reorders {o a depth} ho hdepth h := by
    cases o with
    | none =>
      cases h
      rfl
    | some v =>
      have hread : Wire.read depth (.ofJson a) = .ok v := read_of_reorders (ho v rfl) hdepth h
      rw [read_option_of_ne_null (Document.ofJson_ne_null (write_ne_null v) h), hread]
      rfl

instance : Plain (Nullable α) where
  IsPlain n := IsPlain n.toOption

end

end WebhookClient.Json
