import WebhookClient.Json.Value

/-!
# Dictionaries

Values under distinct names, kept in the order of the names. `Dict.insert` replaces an earlier
value of its name; two dictionaries with the same values under the same names are equal.
-/

set_option autoImplicit false

namespace WebhookClient

namespace Json

variable {α : Type}

/-- Inserting puts nothing but the new name and the old ones into a list of members. -/
theorem mem_insert {name : String} {value : α} {ms : List (String × α)} {m : String × α}
    (h : m ∈ insert name value ms) : m = (name, value) ∨ m ∈ ms := by
  induction ms with
  | nil => simpa [insert] using h
  | cons p rest ih =>
    obtain ⟨k, v⟩ := p
    simp only [insert] at h
    split at h
    · simpa using h
    · split at h
      · rcases List.mem_cons.1 h with h | h
        · exact .inl h
        · exact .inr (List.mem_cons_of_mem _ h)
      · rcases List.mem_cons.1 h with h | h
        · exact .inr (by simp [h])
        · rcases ih h with h | h
          · exact .inl h
          · exact .inr (List.mem_cons_of_mem _ h)

/-- Inserting keeps the names in strictly increasing order. -/
theorem pairwise_insert (name : String) (value : α) {ms : List (String × α)}
    (h : ms.Pairwise fun a b => a.1 < b.1) :
    (insert name value ms).Pairwise fun a b => a.1 < b.1 := by
  induction ms with
  | nil => simp [insert]
  | cons p rest ih =>
    obtain ⟨k, v⟩ := p
    rw [List.pairwise_cons] at h
    simp only [insert]
    split
    · next hlt =>
      refine List.pairwise_cons.2 ⟨fun m hm => ?_, List.pairwise_cons.2 h⟩
      rcases List.mem_cons.1 hm with rfl | hm
      · exact hlt
      · exact String.lt_trans hlt (h.1 m hm)
    · next hge =>
      split
      · next heq =>
        subst heq
        exact List.pairwise_cons.2 ⟨h.1, h.2⟩
      · next hne =>
        refine List.pairwise_cons.2 ⟨fun m hm => ?_, ih h.2⟩
        rcases mem_insert hm with rfl | hm
        · exact Std.lt_of_le_of_ne (String.not_lt.1 hge) (Ne.symm hne)
        · exact h.1 m hm

/-- What has been inserted under a name is found under it. -/
theorem lookup_insert_self (name : String) (value : α) (ms : List (String × α)) :
    lookup name (insert name value ms) = some value := by
  induction ms with
  | nil => simp [insert, lookup]
  | cons p rest ih =>
    obtain ⟨k, v⟩ := p
    simp only [insert]
    split
    · simp [lookup]
    · split
      · simp [lookup]
      · next hne => simpa [lookup, Ne.symm hne] using ih

/-- Inserting under one name changes nothing under the others. -/
theorem lookup_insert_of_ne {name other : String} (h : other ≠ name) (value : α)
    (ms : List (String × α)) : lookup other (insert name value ms) = lookup other ms := by
  induction ms with
  | nil => simp [insert, lookup, Ne.symm h]
  | cons p rest ih =>
    obtain ⟨k, v⟩ := p
    simp only [insert]
    split
    · simp [lookup, Ne.symm h]
    · split
      · next heq =>
        subst heq
        simp [lookup, Ne.symm h]
      · by_cases hk : k = other
        · simp [lookup, hk]
        · simpa [lookup, hk] using ih

end Json

/-- Values under distinct names, in the order of the names. -/
structure Dict (α : Type) where
  entries : List (String × α)
  sorted : entries.Pairwise fun a b => a.1 < b.1

namespace Dict

variable {α : Type}

instance [BEq α] : BEq (Dict α) := ⟨fun a b => a.entries == b.entries⟩

/-- Two dictionaries with the same entries are equal. -/
theorem ext_entries {a b : Dict α} (h : a.entries = b.entries) : a = b := by
  cases a
  cases b
  cases h
  rfl

/-- The dictionary without entries. -/
def empty : Dict α := ⟨[], .nil⟩

instance : Inhabited (Dict α) := ⟨empty⟩

/-- Puts a value under a name, in place of an earlier one. -/
def insert (name : String) (value : α) (d : Dict α) : Dict α :=
  ⟨Json.insert name value d.entries, Json.pairwise_insert name value d.sorted⟩

/-- The value under a name. -/
def get? (name : String) (d : Dict α) : Option α := Json.lookup name d.entries

theorem get?_empty (name : String) : (empty : Dict α).get? name = none := rfl

theorem get?_insert_self (name : String) (value : α) (d : Dict α) :
    (d.insert name value).get? name = some value :=
  Json.lookup_insert_self name value d.entries

theorem get?_insert_of_ne {name other : String} (h : other ≠ name) (value : α) (d : Dict α) :
    (d.insert name value).get? other = d.get? other :=
  Json.lookup_insert_of_ne h value d.entries

end Dict

end WebhookClient
