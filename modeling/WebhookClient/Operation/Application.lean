import WebhookClient.Operation.Basic

/-!
# Operations on applications

An application groups the endpoints and messages of one customer.
-/

set_option autoImplicit false

namespace WebhookClient.Operation.Application

def collection : List PathPart := servicePath [.fixed "app"]

def single : List PathPart := servicePath [.fixed "app", .id "app_id"]

/-- Lists the applications. -/
def list : Operation where
  name := "application.list"
  method := .get
  path := collection
  options := orderedPaging
  answer := .page ⟨ApplicationOut⟩

/-- Creates an application. -/
def create : Operation where
  name := "application.create"
  method := .post
  path := collection
  payload := some ⟨ApplicationIn⟩
  answer := .one ⟨ApplicationOut⟩

/-- Creates an application, or answers the one that has its identifier. -/
def getOrCreate : Operation where
  name := "application.get_or_create"
  method := .post
  path := collection
  fixedQuery := [("get_if_exists", .flag true)]
  payload := some ⟨ApplicationIn⟩
  answer := .one ⟨ApplicationOut⟩

/-- Answers an application. -/
def get : Operation where
  name := "application.get"
  method := .get
  path := single
  answer := .one ⟨ApplicationOut⟩

/-- Replaces an application. -/
def update : Operation where
  name := "application.update"
  method := .put
  path := single
  payload := some ⟨ApplicationIn⟩
  answer := .one ⟨ApplicationOut⟩

/-- Changes parts of an application. -/
def patch : Operation where
  name := "application.patch"
  method := .patch
  path := single
  payload := some ⟨ApplicationPatch⟩
  answer := .one ⟨ApplicationOut⟩

/-- Deletes an application. -/
def delete : Operation where
  name := "application.delete"
  method := .delete
  path := single
  answer := .one ⟨Unit⟩

/-- All operations on applications. -/
def all : List Operation := [list, create, getOrCreate, get, update, patch, delete]

end WebhookClient.Operation.Application
