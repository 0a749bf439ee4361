import WebhookClient.Operation.Basic

/-!
# Operations on event types

Each message has an event type; endpoints choose messages by it.
-/

set_option autoImplicit false

namespace WebhookClient.Operation.EventType

def collection : List PathPart := servicePath [.fixed "event-type"]

def single : List PathPart := servicePath [.fixed "event-type", .id "event_type_name"]

/-- Lists the event types. -/
def list : Operation where
  name := "event_type.list"
  method := .get
  path := collection
  options := orderedPaging ++ [⟨"include_archived", .flag⟩, ⟨"with_content", .flag⟩]
  answer := .page ⟨EventTypeOut⟩

/-- Creates an event type. -/
def create : Operation where
  name := "event_type.create"
  method := .post
  path := collection
  payload := some ⟨EventTypeIn⟩
  answer := .one ⟨EventTypeOut⟩

/-- Answers an event type. -/
def get : Operation where
  name := "event_type.get"
  method := .get
  path := single
  answer := .one ⟨EventTypeOut⟩

/-- Replaces an event type. -/
def update : Operation where
  name := "event_type.update"
  method := .put
  path := single
  payload := some ⟨EventTypeUpdate⟩
  answer := .one ⟨EventTypeOut⟩

/-- Changes parts of an event type. -/
def patch : Operation where
  name := "event_type.patch"
  method := .patch
  path := single
  payload := some ⟨EventTypePatch⟩
  answer := .one ⟨EventTypeOut⟩

/-- Archives an event type, or removes it for good. -/
def delete : Operation where
  name := "event_type.delete"
  method := .delete
  path := single
  options := [⟨"expunge", .flag⟩]
  answer := .one ⟨Unit⟩

/-- All operations on event types. -/
def all : List Operation := [list, create, get, update, patch, delete]

end WebhookClient.Operation.EventType
