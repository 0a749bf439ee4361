import WebhookClient.Operation.Basic

/-!
# Operations on endpoints of the account

The service tells its own events to endpoints that belong to the whole account.
-/

set_option autoImplicit false

namespace WebhookClient.Operation.OperationalWebhook

def collection : List PathPart := servicePath [.fixed "operational-webhook", .fixed "endpoint"]

/-- What belongs to one endpoint of the account. -/
def single (parts : List PathPart) : List PathPart := collection ++ .id "endpoint_id" :: parts

/-- Lists the endpoints of the account. -/
def list : Operation where
  name := "operational_webhook_endpoint.list"
  method := .get
  path := collection
  options := orderedPaging
  answer := .page ⟨OperationalWebhookEndpointOut⟩

/-- Creates an endpoint of the account. -/
def create : Operation where
  name := "operational_webhook_endpoint.create"
  method := .post
  path := collection
  payload := some ⟨OperationalWebhookEndpointIn⟩
  answer := .one ⟨OperationalWebhookEndpointOut⟩

/-- Answers an endpoint of the account. -/
def get : Operation where
  name := "operational_webhook_endpoint.get"
  method := .get
  path := single []
  answer := .one ⟨OperationalWebhookEndpointOut⟩

/-- Replaces an endpoint of the account. -/
def update : Operation where
  name := "operational_webhook_endpoint.update"
  method := .put
  path := single []
  payload := some ⟨OperationalWebhookEndpointUpdate⟩
  answer := .one ⟨OperationalWebhookEndpointOut⟩

/-- Deletes an endpoint of the account. -/
def delete : Operation where
  name := "operational_webhook_endpoint.delete"
  method := .delete
  path := single []
  answer := .one ⟨Unit⟩

/-- Answers the key that signs events to an endpoint of the account. -/
def getSecret : Operation where
  name := "operational_webhook_endpoint.get_secret"
  method := .get
  path := single [.fixed "secret"]
  answer := .one ⟨OperationalWebhookEndpointSecretOut⟩

/-- Replaces the key that signs events to an endpoint of the account. -/
def rotateSecret : Operation where
  name := "operational_webhook_endpoint.rotate_secret"
  method := .post
  path := single [.fixed "secret", .fixed "rotate"]
  payload := some ⟨OperationalWebhookEndpointSecretIn⟩
  answer := .one ⟨Unit⟩

/-- All operations on endpoints of the account. -/
def all : List Operation := [list, create, get, update, delete, getSecret, rotateSecret]

end WebhookClient.Operation.OperationalWebhook
