import WebhookClient.Json.Record

/-!
# Access records

Access to the portal in which the users of an application manage their endpoints.
-/

set_option autoImplicit false

namespace WebhookClient

open Json

/-- What a session in the application portal may do. -/
structure AppPortalAccessIn where
  /-- The life of the session in seconds. -/
  expiry : Option (Bounded .u64)
  featureFlags : Option (List String)
  readOnly : Option Bool
deriving BEq, Inhabited

instance : Record AppPortalAccessIn where
  title := "AppPortalAccessIn"
  types := [Option (Bounded .u64), Option (List String), Option Bool]
  fields :=
    .cons (.optional "expiry") <|
    .cons (.optional "featureFlags") <|
    .cons (.optional "readOnly") <|
    .nil
  toRow r := (r.expiry, r.featureFlags, r.readOnly, ())
  ofRow := fun (expiry, featureFlags, readOnly, ()) =>
    ⟨expiry, featureFlags, readOnly⟩

/-- Access to the application portal. -/
structure AppPortalAccessOut where
  token : String
  url : String
deriving BEq

instance : Record AppPortalAccessOut where
  title := "AppPortalAccessOut"
  types := [String, String]
  fields :=
    .cons (.required "token") <|
    .cons (.required "url") <|
    .nil
  toRow r := (r.token, r.url, ())
  ofRow := fun (token, url, ()) =>
    ⟨token, url⟩

/-- Access to the dashboard. -/
structure DashboardAccessOut where
  token : String
  url : String
deriving BEq

instance : Record DashboardAccessOut where
  title := "DashboardAccessOut"
  types := [String, String]
  fields :=
    .cons (.required "token") <|
    .cons (.required "url") <|
    .nil
  toRow r := (r.token, r.url, ())
  ofRow := fun (token, url, ()) =>
    ⟨token, url⟩

/-- When the tokens of an application expire. -/
structure ApplicationTokenExpireIn where
  /-- The seconds until then. -/
  expiry : Option (Bounded .u64)
deriving BEq, Inhabited

instance : Record ApplicationTokenExpireIn where
  title := "ApplicationTokenExpireIn"
  types := [Option (Bounded .u64)]
  fields :=
    .cons (.optional "expiry") <|
    .nil
  toRow r := (r.expiry, ())
  ofRow := fun (expiry, ()) =>
    ⟨expiry⟩

end WebhookClient
