import WebhookClient.Json.Record

/-!
# Bodies of error answers

What the service says about a request that it refuses.
-/

set_option autoImplicit false

namespace WebhookClient

open Json

/-- The general body of an error answer. -/
structure ServiceError where
  code : String
  detail : String
deriving BEq

instance : Record ServiceError where
  title := "HttpErrorOut"
  types := [String, String]
  fields :=
    .cons (.required "code") <|
    .cons (.required "detail") <|
    .nil
  toRow r := (r.code, r.detail, ())
  ofRow := fun (code, detail, ()) =>
    ⟨code, detail⟩

/-- A field that the service rejected. -/
structure RejectedField where
  /-- The path to the field. -/
  loc : List String
  msg : String
  errorType : String
deriving BEq

instance : Record RejectedField where
  title := "ValidationErrorItem"
  types := [List String, String, String]
  fields :=
    .cons (.required "loc") <|
    .cons (.required "msg") <|
    .cons (.required "type") <|
    .nil
  toRow r := (r.loc, r.msg, r.errorType, ())
  ofRow := fun (loc, msg, errorType, ()) =>
    ⟨loc, msg, errorType⟩

/-- The body of an answer that rejects fields of the request. -/
structure ValidationFailure where
  detail : List RejectedField
deriving BEq

instance : Record ValidationFailure where
  title := "HttpValidationError"
  types := [List RejectedField]
  fields :=
    .cons (.required "detail") <|
    .nil
  toRow r := (r.detail, ())
  ofRow := fun (detail, ()) =>
    ⟨detail⟩

end WebhookClient
