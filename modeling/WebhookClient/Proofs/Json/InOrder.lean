import Mathlib
import WebhookClient.Proofs.Json.Along
import WebhookClient.Proofs.Json.Decode

/-!
# Records as lists

A record is also read from a list of the values of its fields, in the order of the fields, which may
end early where the fields that are left have a value without. Nothing else is read as a record:
`Record.decode_iff`.
-/

set_option autoImplicit false

namespace WebhookClient.Json

variable {τ : Type} {ts : List Type}

/-- A whole text that is a list of these values. -/
def SaysList (s : String) (ds : List Document) : Prop :=
  Text.ofChars s.toList = ⟨.list (.append ds .closed), true⟩

namespace Items

/-- A list that is closed can be read as its end only if it is empty. -/
theorem append_closed_eq_closed_iff {ds : List Document} :
    append ds .closed = .closed ↔ ds = [] := by
  cases ds with
  | nil => exact iff_of_true rfl rfl
  | cons d ds => exact iff_of_false nofun nofun

theorem append_closed_injective {ds es : List Document}
    (h : append ds .closed = append es .closed) : ds = es := by
  induction ds generalizing es with
  | nil => exact (append_closed_eq_closed_iff.1 h.symm).symm
  | cons d ds ih =>
    cases es with
    | nil => cases h
    | cons e es =>
      obtain ⟨rfl, hrest⟩ := Items.item.inj h
      rw [ih hrest]

theorem append_closed_ne_broken (ds : List Document) (b : ListBreak) :
    append ds .closed ≠ .broken b := by
  cases ds <;> exact nofun

theorem expectEnd_eq_ok_iff {items : Items} : items.expectEnd = .ok () ↔ items = .closed := by
  cases items with
  | closed => exact iff_of_true rfl rfl
  | broken b => exact iff_of_false nofun nofun
  | item d rest => exact iff_of_false nofun nofun

end Items

namespace Fields

variable {fs : Fields ts} {depth index : Nat} {expected : String} {items : Items} {r : Row ts}

/-- The fields take values one by one, and those that are left what they have without. -/
def TakesInOrder (depth : Nat) : {ts : List Type} → Fields ts → List Document → Row ts → Prop
  | _, .nil, ds, () => ds = []
  | _, .cons f fs, [], (v, vs) => f.absent = some v ∧ fs.TakesInOrder depth [] vs
  | _, .cons f fs, d :: ds, (v, vs) => f.read depth d = .ok v ∧ fs.TakesInOrder depth ds vs

/-- The value of a field is read, and then those of the fields after it. -/
theorem bind_ofItems_eq_ok_iff {x : Except ReadError τ} {y : Except ReadError (Row ts × Items)}
    {v : τ} {rest : Items} :
    (x >>= fun w => y >>= fun z => .ok (((w, z.1) : Row (τ :: ts)), z.2)) = .ok ((v, r), rest) ↔
      x = .ok v ∧ y = .ok (r, rest) := by
  rw [bind_eq_ok_iff]
  constructor
  · rintro ⟨w, hw, h⟩
    obtain ⟨z, hz, h⟩ := bind_eq_ok_iff.1 h
    cases h
    exact ⟨hw, hz⟩
  · rintro ⟨hv, hy⟩
    exact ⟨v, hv, bind_eq_ok_iff.2 ⟨_, hy, rfl⟩⟩

theorem ofItems_closed_eq_ok_iff {f : Field τ} {v : τ} {rest : Items} :
    (Fields.cons f fs).ofItems depth expected index .closed = .ok ((v, r), rest) ↔
      f.absent = some v ∧ fs.ofItems depth expected (index + 1) .closed = .ok (r, rest) := by
  obtain ⟨name, write, read, absent⟩ := f
  cases absent with
  | none => exact iff_of_false nofun nofun
  | some w =>
    exact (bind_ofItems_eq_ok_iff (x := .ok w)
      (y := fs.ofItems depth expected (index + 1) .closed)).trans (and_congr_left' (by simp))

/-- A row is read from a list to its end just if the fields take its values in order. -/
theorem ofItems_eq_ok_iff :
    fs.ofItems depth expected index items = .ok (r, .closed) ↔
      ∃ ds, items = .append ds .closed ∧ fs.TakesInOrder depth ds r := by
  -- The index, which only messages name, grows along the fields.
  induction fs generalizing index items with
  | nil =>
    constructor
    · intro h
      cases h
      exact ⟨[], rfl, rfl⟩
    · rintro ⟨_, rfl, rfl⟩
      rfl
  | @cons τ ts f fs ih =>
    obtain ⟨v, vs⟩ := r
    cases items with
    | item d rest =>
      refine bind_ofItems_eq_ok_iff.trans ?_
      rw [ih]
      constructor
      · rintro ⟨hv, ds, rfl, hvs⟩
        exact ⟨d :: ds, rfl, hv, hvs⟩
      · rintro ⟨ds, hds, htakes⟩
        cases ds with
        | nil => cases hds
        | cons e ds =>
          obtain ⟨rfl, rfl⟩ := Items.item.inj hds
          exact ⟨htakes.1, ds, rfl, htakes.2⟩
    | broken b =>
      refine iff_of_false nofun ?_
      rintro ⟨ds, hds, -⟩
      exact Items.append_closed_ne_broken ds b hds.symm
    | closed =>
      -- The list has ended early: this field and those after it are left without a value.
      rw [ofItems_closed_eq_ok_iff, ih]
      constructor
      · rintro ⟨hv, ds, hds, hvs⟩
        obtain rfl := Items.append_closed_eq_closed_iff.1 hds.symm
        exact ⟨[], rfl, hv, hvs⟩
      · rintro ⟨ds, hds, htakes⟩
        obtain rfl := Items.append_closed_eq_closed_iff.1 hds.symm
        exact ⟨htakes.1, [], rfl, htakes.2⟩

end Fields

namespace Record

variable {α : Type} [Record α] {a : α}

theorem read_list_eq_ok_iff {depth : Nat} {items : Items} :
    Wire.read (depth + 1) (.list items) = .ok a ↔
      ∃ ds, items = .append ds .closed ∧ fields.TakesInOrder depth ds (toRow a) := by
  have hrow : fields.ofItems depth (expectedLength (title α) (types α).length) 0 items =
      .ok (toRow a, .closed) ↔ _ := Fields.ofItems_eq_ok_iff
  rw [← hrow]
  constructor
  · intro h
    obtain ⟨⟨r, rest⟩, hitems, h⟩ := bind_eq_ok_iff.1 h
    obtain ⟨_, hend, h⟩ := bind_eq_ok_iff.1 h
    cases h
    rw [toRow_ofRow, hitems, Items.expectEnd_eq_ok_iff.1 (mapError_eq_ok_iff.1 hend)]
  · intro h
    refine bind_eq_ok_iff.2 ⟨_, h, bind_eq_ok_iff.2 ⟨(), rfl, ?_⟩⟩
    rw [ofRow_toRow]

/-- A record is read from an object of which each field takes what stands under its name, or from a
list of which the fields take the values in order, and from nothing else. -/
theorem decode_iff (hnames : (fields (α := α)).names.Nodup) {s : String} :
    decode s = .ok a ↔
      (∃ ns, SaysObject s ns ∧ (fields (α := α)).IsSingle ns ∧
        (∀ m ∈ ns, m.1 ∉ (fields (α := α)).names → m.2.skip = .ok ()) ∧
          fields.Takes (maxDepth - 1) ns (toRow a)) ∨
      ∃ ds, SaysList s ds ∧ fields.TakesInOrder (maxDepth - 1) ds (toRow a) := by
  rw [decode_eq_ok_iff]
  unfold SaysObject SaysList
  obtain ⟨root, complete⟩ := Text.ofChars s.toList
  simp only [Text.mk.injEq]
  have hdepth : maxDepth = maxDepth - 1 + 1 := rfl
  cases root with
  | object ms =>
    rw [hdepth, (isReadAlong hnames).read_eq_ok_iff]
    constructor
    · rintro ⟨⟨ns, rfl, h⟩, hcomplete⟩
      exact .inl ⟨ns, ⟨rfl, hcomplete⟩, h⟩
    · rintro (⟨ns, ⟨hns, hcomplete⟩, h⟩ | ⟨ds, ⟨hds, -⟩, -⟩)
      · cases hns
        exact ⟨⟨ns, rfl, h⟩, hcomplete⟩
      · cases hds
  | list items =>
    rw [hdepth, read_list_eq_ok_iff]
    constructor
    · rintro ⟨⟨ds, rfl, h⟩, hcomplete⟩
      exact .inr ⟨ds, ⟨rfl, hcomplete⟩, h⟩
    · rintro (⟨ns, ⟨hns, -⟩, -⟩ | ⟨ds, ⟨hds, hcomplete⟩, h⟩)
      · cases hns
      · cases hds
        exact ⟨⟨ds, rfl, h⟩, hcomplete⟩
  | _ =>
    -- Whatever is neither an object nor a list is no record.
    refine iff_of_false (fun h => nomatch h.1) ?_
    rintro (⟨ns, ⟨hns, -⟩, -⟩ | ⟨ds, ⟨hds, -⟩, -⟩)
    · cases hns
    · cases hds

end Record

end WebhookClient.Json
