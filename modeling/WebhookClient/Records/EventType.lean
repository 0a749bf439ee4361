import WebhookClient.Json.Record

/-!
# Event type records

An event type names a kind of message and may describe its payload.
-/

set_option autoImplicit false

namespace WebhookClient

open Json

/-- An event type to create. -/
structure EventTypeIn where
  name : String
  description : String
  archived : Option Bool
  deprecated : Option Bool
  /-- JSON schemas of the payload, by version. -/
  schemas : Option (Dict Json)
  featureFlag : Option String
  groupName : Option String
deriving BEq

instance : Record EventTypeIn where
  title := "EventTypeIn"
  types := [String, String, Option Bool, Option Bool, Option (Dict Json), Option String, Option
    String]
  fields :=
    .cons (.required "name") <|
    .cons (.required "description") <|
    .cons (.optional "archived") <|
    .cons (.optional "deprecated") <|
    .cons (.optional "schemas") <|
    .cons (.optional "featureFlag") <|
    .cons (.optional "groupName") <|
    .nil
  toRow r := (r.name, r.description, r.archived, r.deprecated, r.schemas, r.featureFlag,
    r.groupName, ())
  ofRow := fun (name, description, archived, deprecated, schemas, featureFlag, groupName, ()) =>
    ⟨name, description, archived, deprecated, schemas, featureFlag, groupName⟩

/-- An event type with a name, a description and nothing else. -/
def EventTypeIn.new (name description : String) : EventTypeIn :=
  ⟨name, description, none, none, none, none, none⟩

/-- An event type of the service. -/
structure EventTypeOut where
  name : String
  description : String
  archived : Bool
  deprecated : Bool
  schemas : Option (Dict Json)
  featureFlag : Option String
  groupName : Option String
  createdAt : Instant
  updatedAt : Instant
deriving BEq

instance : Record EventTypeOut where
  title := "EventTypeOut"
  types := [String, String, Bool, Bool, Option (Dict Json), Option String, Option String, Instant,
    Instant]
  fields :=
    .cons (.required "name") <|
    .cons (.required "description") <|
    .cons (.required "archived") <|
    .cons (.required "deprecated") <|
    .cons (.optional "schemas") <|
    .cons (.optional "featureFlag") <|
    .cons (.optional "groupName") <|
    .cons (.required "createdAt") <|
    .cons (.required "updatedAt") <|
    .nil
  toRow r := (r.name, r.description, r.archived, r.deprecated, r.schemas, r.featureFlag,
    r.groupName, r.createdAt, r.updatedAt, ())
  ofRow := fun (name, description, archived, deprecated, schemas, featureFlag, groupName,
    createdAt, updatedAt, ()) =>
    ⟨name, description, archived, deprecated, schemas, featureFlag, groupName, createdAt,
    updatedAt⟩

/-- An event type to replace another by. -/
structure EventTypeUpdate where
  description : String
  archived : Option Bool
  deprecated : Option Bool
  schemas : Option (Dict Json)
  featureFlag : Option String
  groupName : Option String
deriving BEq, Inhabited

instance : Record EventTypeUpdate where
  title := "EventTypeUpdate"
  types := [String, Option Bool, Option Bool, Option (Dict Json), Option String, Option String]
  fields :=
    .cons (.required "description") <|
    .cons (.optional "archived") <|
    .cons (.optional "deprecated") <|
    .cons (.optional "schemas") <|
    .cons (.optional "featureFlag") <|
    .cons (.optional "groupName") <|
    .nil
  toRow r := (r.description, r.archived, r.deprecated, r.schemas, r.featureFlag, r.groupName, ())
  ofRow := fun (description, archived, deprecated, schemas, featureFlag, groupName, ()) =>
    ⟨description, archived, deprecated, schemas, featureFlag, groupName⟩

/-- A partial update of an event type. -/
structure EventTypePatch where
  description : Option String
  archived : Option Bool
  deprecated : Option Bool
  schemas : Nullable (Dict Json)
  featureFlag : Nullable String
  groupName : Nullable String
deriving BEq, Inhabited

instance : Record EventTypePatch where
  title := "EventTypePatch"
  types := [Option String, Option Bool, Option Bool, Nullable (Dict Json), Nullable String,
    Nullable String]
  fields :=
    .cons (.optional "description") <|
    .cons (.optional "archived") <|
    .cons (.optional "deprecated") <|
    .cons (.nullable "schemas") <|
    .cons (.nullable "featureFlag") <|
    .cons (.nullable "groupName") <|
    .nil
  toRow r := (r.description, r.archived, r.deprecated, r.schemas, r.featureFlag, r.groupName, ())
  ofRow := fun (description, archived, deprecated, schemas, featureFlag, groupName, ()) =>
    ⟨description, archived, deprecated, schemas, featureFlag, groupName⟩

end WebhookClient
