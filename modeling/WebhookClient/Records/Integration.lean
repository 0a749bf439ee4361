import WebhookClient.Json.Record

/-!
# Integration records

An integration gives a third party a key to an application.
-/

set_option autoImplicit false

namespace WebhookClient

open Json

/-- An integration to create. -/
structure IntegrationIn where
  name : String
  featureFlags : Option (List String)
deriving BEq, Inhabited

instance : Record IntegrationIn where
  title := "IntegrationIn"
  types := [String, Option (List String)]
  fields :=
    .cons (.required "name") <|
    .cons (.optional "featureFlags") <|
    .nil
  toRow r := (r.name, r.featureFlags, ())
  ofRow := fun (name, featureFlags, ()) =>
    ⟨name, featureFlags⟩

/-- An integration to replace another by. -/
structure IntegrationUpdate where
  name : String
  featureFlags : Option (List String)
deriving BEq, Inhabited

instance : Record IntegrationUpdate where
  title := "IntegrationUpdate"
  types := [String, Option (List String)]
  fields :=
    .cons (.required "name") <|
    .cons (.optional "featureFlags") <|
    .nil
  toRow r := (r.name, r.featureFlags, ())
  ofRow := fun (name, featureFlags, ()) =>
    ⟨name, featureFlags⟩

/-- An integration of an application. -/
structure IntegrationOut where
  id : String
  name : String
  featureFlags : Option (List String)
  createdAt : Instant
  updatedAt : Instant
deriving BEq

instance : Record IntegrationOut where
  title := "IntegrationOut"
  types := [String, String, Option (List String), Instant, Instant]
  fields :=
    .cons (.required "id") <|
    .cons (.required "name") <|
    .cons (.optional "featureFlags") <|
    .cons (.required "createdAt") <|
    .cons (.required "updatedAt") <|
    .nil
  toRow r := (r.id, r.name, r.featureFlags, r.createdAt, r.updatedAt, ())
  ofRow := fun (id, name, featureFlags, createdAt, updatedAt, ()) =>
    ⟨id, name, featureFlags, createdAt, updatedAt⟩

/-- The key of an integration. -/
structure IntegrationKeyOut where
  key : String
deriving BEq

instance : Record IntegrationKeyOut where
  title := "IntegrationKeyOut"
  types := [String]
  fields :=
    .cons (.required "key") <|
    .nil
  toRow r := (r.key, ())
  ofRow := fun (key, ()) =>
    ⟨key⟩

end WebhookClient
