import WebhookClient.Operation.Account
import WebhookClient.Operation.Application
import WebhookClient.Operation.Endpoint
import WebhookClient.Operation.EventType
import WebhookClient.Operation.Integration
import WebhookClient.Operation.Message
import WebhookClient.Operation.OperationalWebhook
import WebhookClient.Pagination

/-!
# The catalog of operations

All operations of the service, and using one of them through a client.
-/

set_option autoImplicit false

namespace WebhookClient

open Json

namespace Operation

/-- All operations of the service. -/
def catalog : List Operation :=
  Application.all ++ Authentication.all ++ Endpoint.all ++ EventType.all ++ Integration.all ++
    Message.all ++ MessageAttempt.all ++ OperationalWebhook.all ++ Statistics.all

/-- The operation of a name. -/
def ofName? (name : String) : Option Operation := catalog.find? (·.name = name)

end Operation

/-- The type of an answer. -/
@[reducible] def Answer.Value : Answer → Type
  | .one t => t.carrier
  | .page t => Page t.carrier

/-- The JSON form of an answer. -/
@[reducible] def Answer.wire : (a : Answer) → Wire a.Value
  | .one t => t.wire
  | .page t =>
    let _ := t.wire
    inferInstance

namespace Client

/-- Uses an operation. -/
def use (c : Client) (op : Operation) (args : op.Arguments) (s : Circumstances) :
    Call op.answer.Value :=
  let _ := op.answer.wire
  c.call (op.request args) s

/-- Uses an operation to walk through all pages of its list, at most `fuel` of them. -/
def useForAll (c : Client) (op : Operation) (args : op.Arguments) (item : WireType)
    (s : WalkCircumstances) (fuel : Nat) : Walk (Calls item.carrier) item.carrier :=
  let _ := item.wire
  c.walk (fun iterator => op.request (args.withIterator iterator)) s fuel

end Client

end WebhookClient
