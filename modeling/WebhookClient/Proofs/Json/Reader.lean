import Mathlib
import WebhookClient.Json.Reader
import WebhookClient.Proofs.Except
import WebhookClient.Proofs.Json.Order

/-!
# Values read from their documents

A sorted value is read from its document, and from that of any value that differs from it in the
order of members only, if it nests no deeper than the reader goes. Main statement:
`Document.toJson_of_reorders`.
-/

set_option autoImplicit false

namespace WebhookClient.Json

/-! ## Reading -/

theorem Items.toJson_ofItems {depth : Nat} {as bs : List Json}
    (h : List.Forall₂ (fun a b => (Document.ofJson b).toJson depth = .ok a) as bs) :
    (Document.ofJson.ofItems bs).toJson depth = .ok as := by
  induction h with
  | nil => rfl
  | cons ha _ ih =>
    rw [Document.ofJson.ofItems, toJson, ha, ih]
    rfl

/-- The members that are read are inserted one after the other. -/
theorem Members.toJson_ofMembers {depth : Nat} {ms ns : List (String × Json)}
    (h : List.Forall₂ (SameName fun a b => (Document.ofJson b).toJson depth = .ok a) ms ns)
    (read : List (String × Json)) :
    (Document.ofJson.ofMembers ns).toJson depth read = .ok (insertAll read ms) := by
  induction h generalizing read with
  | nil => rfl
  | @cons m n ms ns hmn _ ih =>
    cases hmn with
    | @mk k a b ha =>
      rw [Document.ofJson.ofMembers, toJson, ha]
      exact ih (insert k a read)

/-- A sorted value is read from its document, whatever the order of members is there. -/
theorem Document.toJson_of_reorders {a b : Json} {depth : Nat} (hsorted : a.IsSorted)
    (hdepth : a.FitsIn depth) (h : Reorders a b) : (ofJson b).toJson depth = .ok a := by
  induction hsorted generalizing b depth with
  | null =>
    cases h
    rfl
  | bool v =>
    cases h
    rfl
  | number n =>
    cases h
    rfl
  | string s =>
    cases h
    rfl
  | list _ ih =>
    obtain ⟨d, rfl, hitems⟩ := fitsIn_list_iff.1 hdepth
    obtain ⟨bs, rfl, hbs⟩ := reorders_list_iff.1 h
    have hread := Items.toJson_ofItems
      (forall₂_of_forall_mem hbs fun a ha _ hab => ih a ha (hitems a ha) hab)
    rw [ofJson, toJson, hread]
    rfl
  | object horder _ ih =>
    obtain ⟨d, rfl, hmembers⟩ := fitsIn_object_iff.1 hdepth
    obtain ⟨ms', ns, rfl, hperm, hns⟩ := reorders_object_iff.1 h
    have hread := Members.toJson_ofMembers
      (forall₂_sameName_of_forall_mem hns fun m hm _ hab =>
        ih m (hperm.mem_iff.2 hm) (hmembers m (hperm.mem_iff.2 hm)) hab) []
    rw [ofJson, toJson, hread, insertAll_eq_of_perm horder [] .nil hperm.symm]
    rfl

/-! ## Reading whatever there is -/

theorem Items.exists_toJson_ofItems {depth : Nat} {items : List Json}
    (h : ∀ a ∈ items, ∃ b, (Document.ofJson a).toJson depth = .ok b) :
    ∃ bs, (Document.ofJson.ofItems items).toJson depth = .ok bs := by
  induction items with
  | nil => exact ⟨[], rfl⟩
  | cons a items ih =>
    obtain ⟨⟨b, hb⟩, hitems⟩ := List.forall_mem_cons.1 h
    obtain ⟨bs, hbs⟩ := ih hitems
    rw [Document.ofJson.ofItems, toJson, hb, hbs]
    exact ⟨b :: bs, rfl⟩

theorem Members.exists_toJson_ofMembers {depth : Nat} {members : List (String × Json)}
    (h : ∀ m ∈ members, ∃ b, (Document.ofJson m.2).toJson depth = .ok b)
    (read : List (String × Json)) :
    ∃ ms, (Document.ofJson.ofMembers members).toJson depth read = .ok ms := by
  induction members generalizing read with
  | nil => exact ⟨read, rfl⟩
  | cons m members ih =>
    obtain ⟨k, a⟩ := m
    obtain ⟨⟨b, hb⟩, hmembers⟩ := List.forall_mem_cons.1 h
    rw [Document.ofJson.ofMembers, toJson, hb]
    exact ih hmembers (insert k b read)

/-- Something is read from the document of any value that does not nest too deep. -/
theorem Document.exists_toJson_ofJson {a : Json} {depth : Nat} (h : a.FitsIn depth) :
    ∃ b, (Document.ofJson a).toJson depth = .ok b := by
  induction h with
  | null depth => exact ⟨.null, rfl⟩
  | bool depth b => exact ⟨.bool b, rfl⟩
  | number depth n => exact ⟨.number n, rfl⟩
  | string depth s => exact ⟨.string s, rfl⟩
  | list _ ih =>
    obtain ⟨bs, hbs⟩ := Items.exists_toJson_ofItems ih
    rw [ofJson, toJson, hbs]
    exact ⟨.list bs, rfl⟩
  | object _ ih =>
    obtain ⟨ms, hms⟩ := Members.exists_toJson_ofMembers ih []
    rw [ofJson, toJson, hms]
    exact ⟨.object ms, rfl⟩

end WebhookClient.Json
