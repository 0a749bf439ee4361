import WebhookClient.Json.Enumeration

/-!
# Methods

The methods of HTTP that the operations of the service use.
-/

set_option autoImplicit false

namespace WebhookClient

open Json

/-- A method of HTTP. -/
inductive Method where
  | get
  | post
  | put
  | patch
  | delete
deriving DecidableEq, Repr

instance : Named Method where
  all := [.get, .post, .put, .patch, .delete]
  name
    | .get => "GET"
    | .post => "POST"
    | .put => "PUT"
    | .patch => "PATCH"
    | .delete => "DELETE"
  mem_all a := by cases a <;> simp
  name_injective a b := by cases a <;> cases b <;> simp

/-- Whether the service tells repeated requests of a method apart by a key. -/
def Method.acceptsIdempotencyKey : Method → Bool
  | .post => true
  | _ => false

theorem Method.acceptsIdempotencyKey_iff {m : Method} :
    m.acceptsIdempotencyKey = true ↔ m = .post := by
  cases m <;> simp [Method.acceptsIdempotencyKey]

end WebhookClient
