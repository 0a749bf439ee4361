import WebhookClient.Operation.Basic

/-!
# Operations on endpoints

An endpoint is where the messages of an application are delivered to.
-/

set_option autoImplicit false

namespace WebhookClient.Operation.Endpoint

def collection : List PathPart := servicePath [.fixed "app", .id "app_id", .fixed "endpoint"]

/-- What belongs to one endpoint. -/
def single (parts : List PathPart) : List PathPart := collection ++ .id "endpoint_id" :: parts

/-- Lists the endpoints of an application. -/
def list : Operation where
  name := "endpoint.list"
  method := .get
  path := collection
  options := orderedPaging
  answer := .page ⟨EndpointOut⟩

/-- Creates an endpoint. -/
def create : Operation where
  name := "endpoint.create"
  method := .post
  path := collection
  payload := some ⟨EndpointIn⟩
  answer := .one ⟨EndpointOut⟩

/-- Answers an endpoint. -/
def get : Operation where
  name := "endpoint.get"
  method := .get
  path := single []
  answer := .one ⟨EndpointOut⟩

/-- Replaces an endpoint. -/
def update : Operation where
  name := "endpoint.update"
  method := .put
  path := single []
  payload := some ⟨EndpointUpdate⟩
  answer := .one ⟨EndpointOut⟩

/-- Changes parts of an endpoint. -/
def patch : Operation where
  name := "endpoint.patch"
  method := .patch
  path := single []
  payload := some ⟨EndpointPatch⟩
  answer := .one ⟨EndpointOut⟩

/-- Deletes an endpoint. -/
def delete : Operation where
  name := "endpoint.delete"
  method := .delete
  path := single []
  answer := .one ⟨Unit⟩

/-- Answers the key that signs messages to an endpoint. -/
def getSecret : Operation where
  name := "endpoint.get_secret"
  method := .get
  path := single [.fixed "secret"]
  answer := .one ⟨EndpointSecretOut⟩

/-- Replaces the key that signs messages to an endpoint. -/
def rotateSecret : Operation where
  name := "endpoint.rotate_secret"
  method := .post
  path := single [.fixed "secret", .fixed "rotate"]
  payload := some ⟨EndpointSecretRotateIn⟩
  answer := .one ⟨Unit⟩

/-- Sends again the messages that failed. -/
def recover : Operation where
  name := "endpoint.recover"
  method := .post
  path := single [.fixed "recover"]
  payload := some ⟨RecoverIn⟩
  answer := .one ⟨BackgroundTaskOut⟩

/-- Sends the messages that an endpoint never got. -/
def replayMissing : Operation where
  name := "endpoint.replay_missing"
  method := .post
  path := single [.fixed "replay-missing"]
  payload := some ⟨ReplayIn⟩
  answer := .one ⟨BackgroundTaskOut⟩

/-- Answers the headers added to messages to an endpoint. -/
def getHeaders : Operation where
  name := "endpoint.get_headers"
  method := .get
  path := single [.fixed "headers"]
  answer := .one ⟨EndpointHeadersOut⟩

/-- Replaces the headers added to messages to an endpoint. -/
def updateHeaders : Operation where
  name := "endpoint.update_headers"
  method := .put
  path := single [.fixed "headers"]
  payload := some ⟨EndpointHeadersIn⟩
  answer := .one ⟨Unit⟩

/-- Changes some of the headers added to messages to an endpoint. -/
def patchHeaders : Operation where
  name := "endpoint.patch_headers"
  method := .patch
  path := single [.fixed "headers"]
  payload := some ⟨EndpointHeadersIn⟩
  answer := .one ⟨Unit⟩

/-- Sends an example message to an endpoint. -/
def sendExample : Operation where
  name := "endpoint.send_example"
  method := .post
  path := single [.fixed "send-example"]
  payload := some ⟨EventExampleIn⟩
  answer := .one ⟨MessageOut⟩

/-- All operations on endpoints. -/
def all : List Operation :=
  [list, create, get, update, patch, delete, getSecret, rotateSecret, recover, replayMissing,
   getHeaders, updateHeaders, patchHeaders, sendExample]

end WebhookClient.Operation.Endpoint
