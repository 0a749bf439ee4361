import WebhookClient.Operation.Basic

/-!
# Operations on messages and attempts

A message is delivered to all endpoints of its application that want it. The service keeps an
account of its attempts to deliver messages.
-/

set_option autoImplicit false

namespace WebhookClient.Operation.Message

def collection : List PathPart := servicePath [.fixed "app", .id "app_id", .fixed "msg"]

/-- What belongs to one message. -/
def single (parts : List PathPart) : List PathPart := collection ++ .id "msg_id" :: parts

/-- Lists the messages of an application. -/
def list : Operation where
  name := "message.list"
  method := .get
  path := collection
  options := paging ++
    [⟨"channel", .text⟩, ⟨"before", .time⟩, ⟨"after", .time⟩, ⟨"with_content", .flag⟩,
     ⟨"tag", .text⟩, ⟨"event_types", .texts⟩]
  answer := .page ⟨MessageOut⟩

/-- Sends a message. -/
def create : Operation where
  name := "message.create"
  method := .post
  path := collection
  options := [⟨"with_content", .flag⟩]
  payload := some ⟨MessageIn⟩
  answer := .one ⟨MessageOut⟩

/-- Answers a message. -/
def get : Operation where
  name := "message.get"
  method := .get
  path := single []
  options := [⟨"with_content", .flag⟩]
  answer := .one ⟨MessageOut⟩

/-- Deletes the payload of a message. -/
def expungeContent : Operation where
  name := "message.expunge_content"
  method := .delete
  path := single [.fixed "content"]
  answer := .one ⟨Unit⟩

/-- All operations on messages. -/
def all : List Operation := [list, create, get, expungeContent]

end WebhookClient.Operation.Message

namespace WebhookClient.Operation.MessageAttempt

/-- What belongs to one application. -/
def application (parts : List PathPart) : List PathPart :=
  servicePath (.fixed "app" :: .id "app_id" :: parts)

/-- What belongs to one message. -/
def message (parts : List PathPart) : List PathPart :=
  application (.fixed "msg" :: .id "msg_id" :: parts)

/-- The options of lists of attempts; the kind is that of the option for the endpoint. -/
def attemptOptions (endpoint : OptionKind) : List QueryOption :=
  paging ++
    [⟨"status", .status⟩, ⟨"status_code_class", .statusClass⟩, ⟨"channel", .text⟩,
     ⟨"tag", .text⟩, ⟨"endpoint_id", endpoint⟩, ⟨"before", .time⟩, ⟨"after", .time⟩,
     ⟨"with_content", .flag⟩, ⟨"event_types", .texts⟩]

/-- Lists the attempts to reach an endpoint. The endpoint is named in the path alone; the option
of that name is not sent. -/
def listByEndpoint : Operation where
  name := "message_attempt.list_by_endpoint"
  method := .get
  path := application [.fixed "attempt", .fixed "endpoint", .id "endpoint_id"]
  options := attemptOptions .unsent
  answer := .page ⟨MessageAttemptOut⟩

/-- Lists the attempts to deliver a message. -/
def listByMsg : Operation where
  name := "message_attempt.list_by_msg"
  method := .get
  path := application [.fixed "attempt", .fixed "msg", .id "msg_id"]
  options := attemptOptions .text
  answer := .page ⟨MessageAttemptOut⟩

/-- Lists the messages of an endpoint with their states. -/
def listAttemptedMessages : Operation where
  name := "message_attempt.list_attempted_messages"
  method := .get
  path := application [.fixed "endpoint", .id "endpoint_id", .fixed "msg"]
  options := paging ++
    [⟨"channel", .text⟩, ⟨"tag", .text⟩, ⟨"status", .status⟩, ⟨"before", .time⟩,
     ⟨"after", .time⟩, ⟨"with_content", .flag⟩, ⟨"event_types", .texts⟩]
  answer := .page ⟨EndpointMessageOut⟩

/-- Lists the endpoints of a message with their states. -/
def listAttemptedDestinations : Operation where
  name := "message_attempt.list_attempted_destinations"
  method := .get
  path := message [.fixed "endpoint"]
  options := paging
  answer := .page ⟨MessageEndpointOut⟩

/-- Answers an attempt. -/
def get : Operation where
  name := "message_attempt.get"
  method := .get
  path := message [.fixed "attempt", .id "attempt_id"]
  answer := .one ⟨MessageAttemptOut⟩

/-- Deletes the response that an attempt brought. -/
def expungeContent : Operation where
  name := "message_attempt.expunge_content"
  method := .delete
  path := message [.fixed "attempt", .id "attempt_id", .fixed "content"]
  answer := .one ⟨Unit⟩

/-- Sends a message to an endpoint once more. -/
def resend : Operation where
  name := "message_attempt.resend"
  method := .post
  path := message [.fixed "endpoint", .id "endpoint_id", .fixed "resend"]
  answer := .one ⟨Unit⟩

/-- All operations on attempts. -/
def all : List Operation :=
  [listByEndpoint, listByMsg, listAttemptedMessages, listAttemptedDestinations, get, expungeContent,
   resend]

end WebhookClient.Operation.MessageAttempt
