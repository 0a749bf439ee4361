import WebhookClient.Json.Record

/-!
# Application records

An application is what messages are sent to, usually one for each customer.
-/

set_option autoImplicit false

namespace WebhookClient

open Json

/-- An application to create, or to replace another by. -/
structure ApplicationIn where
  name : String
  rateLimit : Option (Bounded .u16)
  /-- An identifier chosen by the caller. -/
  uid : Option String
  metadata : Option (Dict String)
deriving BEq

instance : Record ApplicationIn where
  title := "ApplicationIn"
  types := [String, Option (Bounded .u16), Option String, Option (Dict String)]
  fields :=
    .cons (.required "name") <|
    .cons (.optional "rateLimit") <|
    .cons (.optional "uid") <|
    .cons (.optional "metadata") <|
    .nil
  toRow r := (r.name, r.rateLimit, r.uid, r.metadata, ())
  ofRow := fun (name, rateLimit, uid, metadata, ()) =>
    ⟨name, rateLimit, uid, metadata⟩

/-- An application with a name and nothing else. -/
def ApplicationIn.new (name : String) : ApplicationIn := ⟨name, none, none, none⟩

/-- An application of the service. -/
structure ApplicationOut where
  id : String
  uid : Option String
  name : String
  rateLimit : Option (Bounded .u16)
  metadata : Dict String
  createdAt : Instant
  updatedAt : Instant
deriving BEq

instance : Record ApplicationOut where
  title := "ApplicationOut"
  types := [String, Option String, String, Option (Bounded .u16), Dict String, Instant, Instant]
  fields :=
    .cons (.required "id") <|
    .cons (.optional "uid") <|
    .cons (.required "name") <|
    .cons (.optional "rateLimit") <|
    .cons (.required "metadata") <|
    .cons (.required "createdAt") <|
    .cons (.required "updatedAt") <|
    .nil
  toRow r := (r.id, r.uid, r.name, r.rateLimit, r.metadata, r.createdAt, r.updatedAt, ())
  ofRow := fun (id, uid, name, rateLimit, metadata, createdAt, updatedAt, ()) =>
    ⟨id, uid, name, rateLimit, metadata, createdAt, updatedAt⟩

/-- A partial update of an application. -/
structure ApplicationPatch where
  name : Option String
  rateLimit : Nullable (Bounded .u16)
  uid : Nullable String
  metadata : Option (Dict String)
deriving BEq, Inhabited

instance : Record ApplicationPatch where
  title := "ApplicationPatch"
  types := [Option String, Nullable (Bounded .u16), Nullable String, Option (Dict String)]
  fields :=
    .cons (.optional "name") <|
    .cons (.nullable "rateLimit") <|
    .cons (.nullable "uid") <|
    .cons (.optional "metadata") <|
    .nil
  toRow r := (r.name, r.rateLimit, r.uid, r.metadata, ())
  ofRow := fun (name, rateLimit, uid, metadata, ()) =>
    ⟨name, rateLimit, uid, metadata⟩

end WebhookClient
