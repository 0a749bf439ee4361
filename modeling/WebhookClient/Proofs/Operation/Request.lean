import Mathlib
import WebhookClient.Proofs.Json.Dict
import WebhookClient.Proofs.Operation.Options
import WebhookClient.Proofs.Operation.Path
import WebhookClient.Proofs.Request.Requested
import WebhookClient.Proofs.Request.Steps

/-!
# Requests of operations

What the request of an operation consists of, and what can be read off its URL: the identifiers and
the options. Main statements: `filled_request` and `eq_of_requested_eq`.
-/

set_option autoImplicit false

namespace WebhookClient

open Url

namespace Operation

/-! ## The parts of a request -/

/-- The values of the identifiers under their names. -/
def pathValues (op : Operation) (args : op.Arguments) : Template.Values :=
  (op.ids.zip args.ids).foldl (fun d e => d.insert e.1 e.2) .empty

/-- The pairs of the query. -/
def queryTexts (op : Operation) (args : op.Arguments) : List (String × String) :=
  (op.fixedQuery.map fun p => (p.1, p.2.toText)) ++ Choices.texts op.options args.options

/-- The key, if the method has one. -/
def key? (op : Operation) (args : op.Arguments) : Option String :=
  if op.method.acceptsIdempotencyKey then args.idempotencyKey else none

theorem foldl_withPathParam (es : List (String × String)) (r : Request) :
    es.foldl (fun r e => r.withPathParam e.1 e.2) r =
      { r with pathParams := es.foldl (fun d e => d.insert e.1 e.2) r.pathParams } := by
  induction es generalizing r with
  | nil => rfl
  | cons e es ih => rw [List.foldl_cons, ih, List.foldl_cons, Request.withPathParam]

theorem request_eq (op : Operation) (args : op.Arguments) :
    op.request args =
      { method := op.method
        template := op.template
        pathParams := op.pathValues args
        query := op.queryTexts args
        headerParams := (op.key? args).elim .empty
          fun k => Dict.empty.insert Request.idempotencyKeyName k
        body := (payloadText op.payload args.payload).map .ok } := by
  have hquery : op.queryTexts args =
      (op.fixedQuery ++ Choices.pairs op.options args.options).map fun p => (p.1, p.2.toText) := by
    rw [List.map_append]
    rfl
  unfold request
  dsimp only
  rw [foldl_withPathParam, Request.withIdempotencyKey_eq, hquery]
  cases payloadText op.payload args.payload <;> rfl

/-! ## The path -/

/-- An operation whose path can be read off what is requested, and whose options have distinct
names. -/
structure IsWellFormed (op : Operation) : Prop where
  path_ne_nil : op.path ≠ []
  path : ∀ p ∈ op.path, p.IsPlain
  ids : op.ids.Nodup
  options : (op.options.map (·.name)).Nodup

section

variable {op : Operation} (args : op.Arguments)

theorem map_fst_zip_ids : (op.ids.zip args.ids).map (·.1) = op.ids :=
  List.map_fst_zip args.length_ids.ge

/-- The template of an operation is filled in with the identifiers in turn. -/
theorem filled_request (h : op.IsWellFormed) :
    (op.request args).filled = filled op.path args.ids := by
  rw [request_eq, Request.filled, segments_template h.path]
  refine map_fill_eq_filled ?_ ?_
  · rw [← ids_eq]
    exact args.length_ids
  · rw [← ids_eq]
    intro e he
    refine Dict.get?_foldl_insert_of_mem ?_ he .empty
    rw [map_fst_zip_ids]
    exact h.ids

/-- Each identifier of the path has a value among the arguments. -/
theorem exists_pathValues (h : op.ids.Nodup) {n : String} (hn : n ∈ op.ids) :
    ∃ v ∈ args.ids, (op.pathValues args).get? n = some v := by
  rw [← map_fst_zip_ids args] at hn
  obtain ⟨e, he, rfl⟩ := List.mem_map.1 hn
  have hnames : ((op.ids.zip args.ids).map (·.1)).Nodup := by
    rw [map_fst_zip_ids]
    exact h
  exact ⟨e.2, (List.of_mem_zip he).2, Dict.get?_foldl_insert_of_mem hnames he .empty⟩

/-- If the identifiers are accepted and nothing vanishes from them, all segments are plain. -/
theorem isPlainFilled_request (h : op.IsWellFormed)
    (hids : ∀ v ∈ args.ids, Path.visible v.toList = v.toList)
    (haccepted : ∀ ps ∈ Template.segments op.template,
      Template.IsAccepted (op.pathValues args) ps) : (op.request args).IsPlainFilled := by
  rw [request_eq]
  intro ps hps
  -- A fixed part is plain by itself, an identifier because it was not reported.
  have haccepted := (haccepted ps hps).2
  rw [segments_template h.path] at hps
  obtain ⟨p, hp, rfl⟩ := List.mem_map.1 hps
  cases p with
  | fixed s =>
    show Path.IsPlain (Template.fill (op.pathValues args) _)
    rw [PathPart.fill_pieces_fixed]
    exact (h.path _ hp).1
  | id n =>
    have hn : n ∈ op.ids := by
      rw [ids_eq]
      exact List.mem_filterMap.2 ⟨_, hp, rfl⟩
    obtain ⟨v, hv, hvalue⟩ := exists_pathValues args h.ids hn
    have hfill := PathPart.fill_pieces_id hvalue
    have hmisleading : Template.isMisleading v.toList = false := by
      rw [← hfill]
      exact haccepted.resolve_left (List.cons_ne_nil _ _)
    show Path.IsPlain (Template.fill (op.pathValues args) _)
    rw [hfill]
    unfold Path.IsPlain
    rw [hids v hv]
    simp only [Template.isMisleading, Bool.or_eq_false_iff, decide_eq_false_iff_not] at hmisleading
    exact ⟨hmisleading.1.1, hmisleading.1.2, hmisleading.2⟩

/-- Nothing vanishes from the texts of a path if nothing does from the identifiers. -/
theorem map_visible_filled {ps : List PathPart} {vs : List String} (hps : ∀ p ∈ ps, p.IsPlain)
    (hvs : ∀ v ∈ vs, Path.visible v.toList = v.toList) :
    (filled ps vs).map Path.visible = filled ps vs := by
  induction ps generalizing vs with
  | nil => rfl
  | cons p ps ih =>
    obtain ⟨hp, hrest⟩ := List.forall_mem_cons.1 hps
    cases p with
    | fixed s => rw [filled, List.map_cons, hp.2.1, ih hrest hvs]
    | id n =>
      cases vs with
      | nil =>
        rw [filled, List.map_cons, ih hrest hvs]
        rfl
      | cons v vs =>
        obtain ⟨hv, hvs⟩ := List.forall_mem_cons.1 hvs
        rw [filled, List.map_cons, hv, ih hrest hvs]

end

theorem filled_ne_nil {ps : List PathPart} (h : ps ≠ []) (vs : List String) :
    filled ps vs ≠ [] := by
  obtain ⟨p, ps, rfl⟩ := List.exists_cons_of_ne_nil h
  obtain ⟨x, ws, hx⟩ := exists_filled_cons p ps vs
  rw [hx]
  exact List.cons_ne_nil _ _

/-- The texts of the path and the pairs of the query are read off what is requested. -/
theorem eq_of_requested_eq {base u v : Url} (hweb : base.kind = .web) {op op' : Operation}
    (h : op.IsWellFormed) (h' : op'.IsWellFormed) {args : op.Arguments} {args' : op'.Arguments}
    (hids : ∀ x ∈ args.ids, Path.visible x.toList = x.toList)
    (hids' : ∀ x ∈ args'.ids, Path.visible x.toList = x.toList)
    (hu : (op.request args).url base = .ok u) (hv : (op'.request args').url base = .ok v)
    (huv : u.requested.toText = v.requested.toText) :
    filled op.path args.ids = filled op'.path args'.ids ∧
      op.queryTexts args = op'.queryTexts args' := by
  have hplain : (op.request args).IsPlainFilled := by
    refine isPlainFilled_request args h hids ?_
    have haccepted := (Request.url_eq_ok_iff.1 hu).1
    rw [request_eq] at haccepted
    exact haccepted
  have hplain' : (op'.request args').IsPlainFilled := by
    refine isPlainFilled_request args' h' hids' ?_
    have haccepted := (Request.url_eq_ok_iff.1 hv).1
    rw [request_eq] at haccepted
    exact haccepted
  have hne : (op.request args).filled ≠ [] := by
    rw [filled_request args h]
    exact filled_ne_nil h.path_ne_nil _
  have hne' : (op'.request args').filled ≠ [] := by
    rw [filled_request args' h']
    exact filled_ne_nil h'.path_ne_nil _
  obtain ⟨hfilled, hquery⟩ :=
    Request.eq_of_requested_eq hweb hplain hplain' hne hne' hu hv huv
  rw [filled_request args h, filled_request args' h', map_visible_filled h.path hids,
    map_visible_filled h'.path hids'] at hfilled
  rw [request_eq, request_eq] at hquery
  exact ⟨hfilled, hquery⟩

/-! ## The key -/

/-- The name of the header that carries the key. -/
def idempotencyKeyHeader : HeaderName := ⟨Request.idempotencyKeyName, by decide⟩

end Operation

end WebhookClient
