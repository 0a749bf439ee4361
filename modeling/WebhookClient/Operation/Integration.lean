import WebhookClient.Operation.Basic

/-!
# Operations on integrations

An integration lets another service act for an application.
-/

set_option autoImplicit false

namespace WebhookClient.Operation.Integration

def collection : List PathPart := servicePath [.fixed "app", .id "app_id", .fixed "integration"]

/-- What belongs to one integration. -/
def single (parts : List PathPart) : List PathPart := collection ++ .id "integ_id" :: parts

/-- Lists the integrations of an application. -/
def list : Operation where
  name := "integration.list"
  method := .get
  path := collection
  options := orderedPaging
  answer := .page ⟨IntegrationOut⟩

/-- Creates an integration. -/
def create : Operation where
  name := "integration.create"
  method := .post
  path := collection
  payload := some ⟨IntegrationIn⟩
  answer := .one ⟨IntegrationOut⟩

/-- Answers an integration. -/
def get : Operation where
  name := "integration.get"
  method := .get
  path := single []
  answer := .one ⟨IntegrationOut⟩

/-- Replaces an integration. -/
def update : Operation where
  name := "integration.update"
  method := .put
  path := single []
  payload := some ⟨IntegrationUpdate⟩
  answer := .one ⟨IntegrationOut⟩

/-- Deletes an integration. -/
def delete : Operation where
  name := "integration.delete"
  method := .delete
  path := single []
  answer := .one ⟨Unit⟩

/-- Answers the key of an integration. -/
def getKey : Operation where
  name := "integration.get_key"
  method := .get
  path := single [.fixed "key"]
  answer := .one ⟨IntegrationKeyOut⟩

/-- Replaces the key of an integration. -/
def rotateKey : Operation where
  name := "integration.rotate_key"
  method := .post
  path := single [.fixed "key", .fixed "rotate"]
  answer := .one ⟨IntegrationKeyOut⟩

/-- All operations on integrations. -/
def all : List Operation := [list, create, get, update, delete, getKey, rotateKey]

end WebhookClient.Operation.Integration
