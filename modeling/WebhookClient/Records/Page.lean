import WebhookClient.Json.Enumeration
import WebhookClient.Json.Record

/-!
# Lists

A list is answered page by page, in one of two orders.
-/

set_option autoImplicit false

namespace WebhookClient

open Json

/-- One page of a list; `iterator` leads to the next page until `done`. -/
structure Page (α : Type) where
  data : List α
  done : Bool
  iterator : Option String
  prevIterator : Option String
deriving BEq

instance {α : Type} [Wire α] : Record (Page α) where
  title := "ListResponse"
  types := [List α, Bool, Option String, Option String]
  fields :=
    .cons (.required "data") <|
    .cons (.required "done") <|
    .cons (.optional "iterator") <|
    .cons (.optional "prevIterator") <|
    .nil
  toRow r := (r.data, r.done, r.iterator, r.prevIterator, ())
  ofRow := fun (data, done, iterator, prevIterator, ()) =>
    ⟨data, done, iterator, prevIterator⟩

/-- The order of a list. -/
inductive SortOrder where
  | ascending
  | descending
deriving DecidableEq, Repr, Inhabited

instance : Named SortOrder where
  all := [.ascending, .descending]
  name
    | .ascending => "ascending"
    | .descending => "descending"
  mem_all a := by cases a <;> simp
  name_injective a b := by cases a <;> cases b <;> simp

instance : Worded SortOrder where
  all := [.ascending, .descending]
  word
    | .ascending => "ascending"
    | .descending => "descending"
  mem_all a := by cases a <;> simp
  word_injective a b := by cases a <;> cases b <;> simp

end WebhookClient
