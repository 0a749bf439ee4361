import Mathlib
import WebhookClient.Proofs.Operation.Catalog
import WebhookClient.Proofs.Request.Query

/-!
# Requests for pages

The requests for the pages of a list differ in their queries only, and there in the iterator only,
which comes after those that the query of the server has. Main statements: `valuesOf_iterator`,
`pairsBeside_iterator`.
-/

set_option autoImplicit false

namespace WebhookClient

/-! ## Queries by name -/

namespace Url

/-- The values that stand under a name in the query. -/
def valuesOf (name : String) (u : Url) : List String :=
  ((Form.parse (u.query.getD [])).filter (·.1 = name)).map (·.2)

/-- The pairs that stand under all other names in the query. -/
def pairsBeside (name : String) (u : Url) : List (String × String) :=
  (Form.parse (u.query.getD [])).filter (·.1 ≠ name)

theorem appendQuery_withoutQuery (u : Url) (pairs : List (String × String)) :
    { u.appendQuery pairs with query := none } = { u with query := none } := by
  unfold appendQuery
  split_ifs <;> rfl

end Url

namespace Request

variable {base u v : Url} {r r' : Request}

theorem parse_query_of_url_eq_ok (h : r.url base = .ok u) :
    Url.Form.parse (u.query.getD []) = Url.Form.parse (base.query.getD []) ++ r.query := by
  rw [query_of_url_eq_ok h]
  exact Url.parse_longerQuery _ _

/-- Requests whose paths are filled in alike go to the same place. -/
theorem withoutQuery_eq_of_url_eq_ok (htemplate : r.template = r'.template)
    (hparams : r.pathParams = r'.pathParams) (hu : r.url base = .ok u) (hv : r'.url base = .ok v) :
    { u with query := none } = { v with query := none } := by
  obtain ⟨-, path, hpath, rfl⟩ := url_eq_ok_iff.1 hu
  obtain ⟨-, path', hpath', rfl⟩ := url_eq_ok_iff.1 hv
  obtain rfl : path = path' := Option.some.inj (hpath.symm.trans hpath')
  rw [Url.appendQuery_withoutQuery, Url.appendQuery_withoutQuery, htemplate, hparams]

end Request

/-! ## Requests for pages -/

namespace Operation

/-- The request for the page of an iterator. -/
def pageRequest (op : Operation) (args : op.Arguments) (iterator : Option String) : Request :=
  op.request (args.withIterator iterator)

variable {op : Operation} {args : op.Arguments} {iterator : Option String} {base u : Url}

/-- The iterator has a part in the query only. -/
theorem pageRequest_eq (op : Operation) (args : op.Arguments) (iterator : Option String) :
    op.pageRequest args iterator =
      { op.request args with query := op.queryTexts (args.withIterator iterator) } := by
  rw [pageRequest, request_eq, request_eq]
  rfl

/-- The query asks for a page by its iterator, and by nothing else of that name. -/
theorem valuesOf_iterator (hop : op ∈ catalog) (hpage : op.answer.item?.isSome)
    (hu : (op.pageRequest args iterator).url base = .ok u) :
    u.valuesOf "iterator" = base.valuesOf "iterator" ++ iterator.toList := by
  obtain ⟨-, hmem, hfixed⟩ := iterator_mem_options op hop hpage
  have hfixed' : (op.fixedQuery.map fun p => (p.1, p.2.toText)).filter (·.1 = "iterator") = [] :=
    List.filter_eq_nil_iff.2 (List.forall_mem_map.2 fun p hp => by simpa using hfixed p hp)
  have hoptions := Choices.filter_texts_setText iterator args.options
    (isWellFormed_of_mem_catalog op hop).options hmem
  rw [Url.valuesOf, Request.parse_query_of_url_eq_ok hu, pageRequest_eq]
  show (List.filter _ (_ ++ (_ ++ Choices.texts op.options
    (Choices.setText "iterator" iterator op.options args.options)))).map _ = _
  rw [List.filter_append, List.filter_append, hfixed', hoptions, List.nil_append, List.map_append,
    List.map_map]
  cases iterator <;> rfl

/-- All other pairs of the query are the same for all pages. -/
theorem pairsBeside_iterator (hu : (op.pageRequest args iterator).url base = .ok u) :
    u.pairsBeside "iterator" =
      base.pairsBeside "iterator" ++ (op.queryTexts args).filter (·.1 ≠ "iterator") := by
  rw [Url.pairsBeside, Request.parse_query_of_url_eq_ok hu, pageRequest_eq, List.filter_append,
    queryTexts, queryTexts, List.filter_append, List.filter_append]
  show _ ++ (_ ++ (Choices.texts op.options
    (Choices.setText "iterator" iterator op.options args.options)).filter _) = _
  rw [Choices.filter_ne_texts_setText]
  rfl

/-- The request for a page has no headers of its own. -/
theorem headers_eq_empty (hop : op ∈ catalog) (hpage : op.answer.item?.isSome) {hs : Headers}
    (h : (op.pageRequest args iterator).headers = .ok hs) : hs = .empty := by
  obtain ⟨hmethod, -⟩ := iterator_mem_options op hop hpage
  have hkey : op.key? args = none := by
    rw [key?, hmethod]
    rfl
  rw [pageRequest_eq, request_eq, hkey] at h
  cases h
  rfl

end Operation

end WebhookClient
