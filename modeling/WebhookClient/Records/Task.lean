import WebhookClient.Json.Enumeration
import WebhookClient.Json.Record

/-!
# Tasks of the service

The service does long work in the background and answers with a handle for it.
-/

set_option autoImplicit false

namespace WebhookClient

open Json

/-- How far a task has come. -/
inductive TaskStatus where
  | running
  | finished
  | failed
deriving DecidableEq, Repr

instance : Named TaskStatus where
  all := [.running, .finished, .failed]
  name
    | .running => "running"
    | .finished => "finished"
    | .failed => "failed"
  mem_all a := by cases a <;> simp
  name_injective a b := by cases a <;> cases b <;> simp

instance : Worded TaskStatus where
  all := [.running, .finished, .failed]
  word
    | .running => "running"
    | .finished => "finished"
    | .failed => "failed"
  mem_all a := by cases a <;> simp
  word_injective a b := by cases a <;> cases b <;> simp

/-- What a task does. -/
inductive TaskKind where
  | endpointReplay
  | endpointRecover
  | applicationStats
  | messageBroadcast
  | sdkGenerate
  | eventTypeAggregate
deriving DecidableEq, Repr

instance : Named TaskKind where
  all := [.endpointReplay, .endpointRecover, .applicationStats, .messageBroadcast, .sdkGenerate,
    .eventTypeAggregate]
  name
    | .endpointReplay => "endpoint.replay"
    | .endpointRecover => "endpoint.recover"
    | .applicationStats => "application.stats"
    | .messageBroadcast => "message.broadcast"
    | .sdkGenerate => "sdk.generate"
    | .eventTypeAggregate => "event-type.aggregate"
  mem_all a := by cases a <;> simp
  name_injective a b := by cases a <;> cases b <;> simp

instance : Worded TaskKind where
  all := [.endpointReplay, .endpointRecover, .applicationStats, .messageBroadcast, .sdkGenerate,
    .eventTypeAggregate]
  word
    | .endpointReplay => "endpoint.replay"
    | .endpointRecover => "endpoint.recover"
    | .applicationStats => "application.stats"
    | .messageBroadcast => "message.broadcast"
    | .sdkGenerate => "sdk.generate"
    | .eventTypeAggregate => "event-type.aggregate"
  mem_all a := by cases a <;> simp
  word_injective a b := by cases a <;> cases b <;> simp

/-- The handle of a task. -/
structure BackgroundTaskOut where
  id : String
  status : TaskStatus
  task : TaskKind
deriving BEq

instance : Record BackgroundTaskOut where
  title := "BackgroundTaskOut"
  types := [String, TaskStatus, TaskKind]
  fields :=
    .cons (.required "id") <|
    .cons (.required "status") <|
    .cons (.required "task") <|
    .nil
  toRow r := (r.id, r.status, r.task, ())
  ofRow := fun (id, status, task, ()) => ⟨id, status, task⟩

/-! ## Usage statistics -/

/-- The time and the applications whose use is counted. -/
structure AppUsageStatsIn where
  since : Instant
  upTo : Instant
  /-- The applications; all if there are none. -/
  appIds : Option (List String)
deriving BEq

instance : Record AppUsageStatsIn where
  title := "AppUsageStatsIn"
  types := [Instant, Instant, Option (List String)]
  fields :=
    .cons (.required "since") <|
    .cons (.required "until") <|
    .cons (.optional "appIds") <|
    .nil
  toRow r := (r.since, r.upTo, r.appIds, ())
  ofRow := fun (since, upTo, appIds, ()) => ⟨since, upTo, appIds⟩

/-- The handle of the task that counts use. -/
structure AppUsageStatsOut where
  id : String
  status : TaskStatus
  task : TaskKind
  /-- The identifiers asked for that no application has. -/
  unresolvedAppIds : List String
deriving BEq

instance : Record AppUsageStatsOut where
  title := "AppUsageStatsOut"
  types := [String, TaskStatus, TaskKind, List String]
  fields :=
    .cons (.required "id") <|
    .cons (.required "status") <|
    .cons (.required "task") <|
    .cons (.required "unresolvedAppIds") <|
    .nil
  toRow r := (r.id, r.status, r.task, r.unresolvedAppIds, ())
  ofRow := fun (id, status, task, unresolvedAppIds, ()) => ⟨id, status, task, unresolvedAppIds⟩

end WebhookClient
