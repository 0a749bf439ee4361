import Mathlib
import WebhookClient.Request.Basic

/-!
# Requests step by step

A request is put together in steps, each of which sets or adds one thing. What a step adds to the
query, to the headers and to the values of the path, and from it what all steps together do:
`query_ofSteps`, `headerParams_ofSteps` and `pathParams_ofSteps`.
-/

set_option autoImplicit false

namespace WebhookClient.Request

/-! ## Setting a header -/

theorem withHeader_eq (name : String) (value : Option String) (r : Request) :
    r.withHeader name value =
      { r with
        headerParams := value.elim r.headerParams fun v => r.headerParams.insert name v } := by
  cases value <;> rfl

theorem withIdempotencyKey_eq (key : Option String) (r : Request) :
    r.withIdempotencyKey key =
      { r with
        headerParams := (if r.method.acceptsIdempotencyKey then key else none).elim r.headerParams
          fun k => r.headerParams.insert idempotencyKeyName k } := by
  unfold withIdempotencyKey
  rw [withHeader_eq]
  split_ifs <;> rfl

/-! ## One step -/

/-- A step in which a request is put together. -/
inductive Step where
  | pathParam (name value : String)
  | query (name : String) (value : QueryValue)
  | optionalQuery (name : String) (value : Option QueryValue)
  | queryList (name : String) (values : Option (List QueryValue))
  | header (name : String) (value : Option String)
  | idempotencyKey (key : Option String)
  | body (text : Except Json.ReadError String)

namespace Step

/-- The request after a step. -/
def apply (step : Step) (r : Request) : Request :=
  match step with
  | .pathParam name value => r.withPathParam name value
  | .query name value => r.withQuery [(name, value)]
  | .optionalQuery name value => r.withOptionalQuery name value
  | .queryList name values => r.withQueryList name values
  | .header name value => r.withHeader name value
  | .idempotencyKey key => r.withIdempotencyKey key
  | .body text => r.withBodyText text

/-- The pairs that a step adds to the query: one for each value. -/
def pairs : Step → List (String × String)
  | .query name value => [(name, value.toText)]
  | .optionalQuery name (some value) => [(name, value.toText)]
  | .queryList name (some values) => values.map fun v => (name, v.toText)
  | _ => []

/-- The header that a step gives a value to, as it is spelt. A key counts only for the methods
that have one. -/
def header? (method : Method) : Step → Option (String × String)
  | .header name (some value) => some (name, value)
  | .idempotencyKey (some key) =>
    if method.acceptsIdempotencyKey then some (idempotencyKeyName, key) else none
  | _ => none

/-- The value that a step gives to a group of the path. -/
def pathParam? : Step → Option (String × String)
  | .pathParam name value => some (name, value)
  | _ => none

theorem method_apply (step : Step) (r : Request) : (step.apply r).method = r.method := by
  cases step with
  | header name value => rw [apply, withHeader_eq]
  | idempotencyKey key => rw [apply, withIdempotencyKey_eq]
  | _ => rfl

theorem template_apply (step : Step) (r : Request) : (step.apply r).template = r.template := by
  cases step with
  | header name value => rw [apply, withHeader_eq]
  | idempotencyKey key => rw [apply, withIdempotencyKey_eq]
  | _ => rfl

theorem query_apply (step : Step) (r : Request) :
    (step.apply r).query = r.query ++ step.pairs := by
  have hnone : r.query = r.query ++ [] := (List.append_nil _).symm
  cases step with
  | query name value => rfl
  | optionalQuery name value => cases value <;> rfl
  | queryList name values =>
    cases values with
    | none => rfl
    | some values =>
      show r.query ++ (values.map _).map _ = r.query ++ values.map _
      rw [List.map_map]
      rfl
  | header name value =>
    rw [apply, withHeader_eq]
    exact hnone
  | idempotencyKey key =>
    rw [apply, withIdempotencyKey_eq]
    exact hnone
  | pathParam name value => exact hnone
  | body text => exact hnone

theorem headerParams_apply (step : Step) (r : Request) :
    (step.apply r).headerParams =
      (step.header? r.method).elim r.headerParams fun g => r.headerParams.insert g.1 g.2 := by
  cases step with
  | header name value => cases value <;> rfl
  | idempotencyKey key =>
    rw [apply, withIdempotencyKey_eq]
    cases key with
    | none =>
      rw [ite_self]
      rfl
    | some key =>
      unfold header?
      split_ifs <;> rfl
  | optionalQuery name value => cases value <;> rfl
  | queryList name values => cases values <;> rfl
  | _ => rfl

theorem pathParams_apply (step : Step) (r : Request) :
    (step.apply r).pathParams =
      step.pathParam?.elim r.pathParams fun g => r.pathParams.insert g.1 g.2 := by
  cases step with
  | header name value =>
    rw [apply, withHeader_eq]
    rfl
  | idempotencyKey key =>
    rw [apply, withIdempotencyKey_eq]
    rfl
  | _ => rfl

end Step

/-! ## All steps -/

/-- The request that steps put together. -/
def ofSteps (method : Method) (template : String) (steps : List Step) : Request :=
  steps.foldl (fun r step => step.apply r) (new method template)

/-- The headers that steps give values to, in the order of the steps. -/
def givenHeaders (method : Method) (steps : List Step) : List (String × String) :=
  steps.filterMap (Step.header? method)

/-- The values that steps give to groups of the path, in the order of the steps. -/
def givenValues (steps : List Step) : List (String × String) := steps.filterMap Step.pathParam?

theorem query_foldl (steps : List Step) (r : Request) :
    (steps.foldl (fun r step => step.apply r) r).query = r.query ++ steps.flatMap Step.pairs := by
  induction steps generalizing r with
  | nil => exact (List.append_nil _).symm
  | cons step steps ih =>
    rw [List.foldl_cons, ih, Step.query_apply, List.flatMap_cons, List.append_assoc]

/-- The query holds what the steps add, in their order. -/
theorem query_ofSteps (method : Method) (template : String) (steps : List Step) :
    (ofSteps method template steps).query = steps.flatMap Step.pairs :=
  query_foldl steps _

theorem template_foldl (steps : List Step) (r : Request) :
    (steps.foldl (fun r step => step.apply r) r).template = r.template := by
  induction steps generalizing r with
  | nil => rfl
  | cons step steps ih => rw [List.foldl_cons, ih, Step.template_apply]

theorem template_ofSteps (method : Method) (template : String) (steps : List Step) :
    (ofSteps method template steps).template = template :=
  template_foldl steps _

/-- Where each step of a request with a method puts the text that it gives into a dictionary, all
the texts are put there in the order of the steps. -/
theorem dict_foldl (field : Request → Dict String) {given? : Step → Option (String × String)}
    {r : Request}
    (hstep : ∀ (step : Step) (q : Request), q.method = r.method →
      field (step.apply q) =
        (given? step).elim (field q) fun g => (field q).insert g.1 g.2)
    (steps : List Step) :
    field (steps.foldl (fun r step => step.apply r) r) =
      (steps.filterMap given?).foldl (fun d g => d.insert g.1 g.2) (field r) := by
  induction steps generalizing r with
  | nil => rfl
  | cons step steps ih =>
    have hmethod : (step.apply r).method = r.method := step.method_apply r
    rw [List.foldl_cons, ih fun s q hq => hstep s q (hq.trans hmethod), hstep step r rfl,
      List.filterMap_cons]
    cases given? step <;> rfl

/-- The headers are those that the steps give, set one after the other. -/
theorem headerParams_ofSteps (method : Method) (template : String) (steps : List Step) :
    (ofSteps method template steps).headerParams =
      (givenHeaders method steps).foldl (fun d g => d.insert g.1 g.2) .empty :=
  dict_foldl Request.headerParams
    (fun step q hq => by rw [step.headerParams_apply, hq]; rfl) steps

/-- The values of the path are those that the steps give, set one after the other. -/
theorem pathParams_ofSteps (method : Method) (template : String) (steps : List Step) :
    (ofSteps method template steps).pathParams =
      (givenValues steps).foldl (fun d g => d.insert g.1 g.2) .empty :=
  dict_foldl Request.pathParams (fun step q _ => step.pathParams_apply q) steps

end WebhookClient.Request
