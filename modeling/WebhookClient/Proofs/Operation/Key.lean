import Mathlib
import WebhookClient.Proofs.Operation.Request
import WebhookClient.Proofs.Request.Headers

/-!
# The key of a request

A request has at most one key, which stands under its own name in no other spelling (`HasKey`): the
key of an operation is that of its arguments, and of the keys that steps give the last one counts,
whatever stands between them. Where a key cannot be sent the request is not prepared, and `KeyFault`
says what is reported.
-/

set_option autoImplicit false

namespace WebhookClient

open Header

open Operation (idempotencyKeyHeader)

/-- What becomes of a key: of all methods `POST` alone has one. -/
def Method.keyOf (method : Method) (key : Option String) : Option String :=
  if method = .post then key else none

theorem Method.keyOf_eq (method : Method) (key : Option String) :
    method.keyOf key = if method.acceptsIdempotencyKey then key else none := by
  simp only [keyOf, acceptsIdempotencyKey_iff]

namespace Request

variable {r : Request} {base : Url} {key : Option String}

/-! ## Having a key -/

/-- A request that has a key under its own name, or has none, and nothing under other spellings of
the name. -/
structure HasKey (r : Request) (key : Option String) : Prop where
  get? : r.headerParams.get? idempotencyKeyName = key
  alone : ∀ l ∈ r.headerParams.entries, idempotencyKeyHeader.IsSpelt l.1 →
    l.1 = idempotencyKeyName

theorem HasKey.lastFor (h : r.HasKey key) :
    lastFor idempotencyKeyHeader r.headerParams.entries = key := by
  cases key with
  | none =>
    refine lastWhere_eq_none_iff.2 fun l hl hspelt => ?_
    have hget : r.headerParams.get? l.1 = some l.2 := Dict.get?_eq_some_iff.2 hl
    rw [h.alone l hl hspelt, h.get?] at hget
    cases hget
  | some k =>
    rw [← h.get?]
    refine Dict.lastWhere_entries ⟨⟨by decide, by rw [h.get?]; rfl⟩, ?_⟩
    rintro s ⟨hspelt, hsome⟩
    obtain ⟨v, hv⟩ := Option.isSome_iff_exists.1 hsome
    exact (h.alone (s, v) (Dict.get?_eq_some_iff.1 hv) hspelt).le

/-- The key is sent unchanged and alone under its name, and without a key there is nothing. -/
theorem HasKey.map_text_get_headers (h : r.HasKey key) {hs : Headers} (hhs : r.headers = .ok hs) :
    (hs.get idempotencyKeyHeader).map (·.text) = key.toList := by
  rw [Request.map_text_get_headers hhs, h.lastFor]

/-! ## Keys that cannot be sent -/

/-- What is reported of a request whose key cannot be sent: a fault of its path, or else the header
with the least spelling that cannot be sent, if that is less than the name of the key, or else the
key. -/
inductive KeyFault (r : Request) : Failure → Prop where
  | path {e : Failure} (hexpand : Template.expand r.template r.pathParams = .error e) :
    KeyFault r e
  | earlier {l : String × String} {fault : Header.Fault} (hpath : r.IsFillable)
    (hl : l ∈ r.headerParams.entries) (hless : l.1 < idempotencyKeyName)
    (hfirst : ∀ l' ∈ r.headerParams.entries, l'.1 < l.1 → IsSendable l'.1 l'.2)
    (hbad : ¬ IsSendable l.1 l.2) : KeyFault r (.invalidHeader l.1 fault.message)
  | key (hpath : r.IsFillable)
    (hfirst : ∀ l ∈ r.headerParams.entries, l.1 < idempotencyKeyName → IsSendable l.1 l.2) :
    KeyFault r (.invalidHeader idempotencyKeyName Header.Fault.value.message)

section

variable {k : String} {e : Failure} (h : r.HasKey (some k)) (hk : ¬ isValue k.toList = true)

include h

theorem HasKey.mem_entries : (idempotencyKeyName, k) ∈ r.headerParams.entries :=
  Dict.get?_eq_some_iff.1 h.get?

include hk

/-- The header that is reported has no greater spelling than the key. -/
theorem HasKey.keyFault_of_headers_eq_error (hpath : r.IsFillable) (he : r.headers = .error e) :
    r.KeyFault e := by
  obtain ⟨l, hl, hfirst, hread⟩ := headers_eq_error_iff.1 he
  -- Every header with a lesser spelling than the one reported can be sent, and the key cannot.
  have hle : l.1 ≤ idempotencyKeyName :=
    not_lt.1 fun hlt => hk (hfirst _ h.mem_entries hlt).2
  obtain hless | heq := hle.lt_or_eq
  · obtain ⟨hbad, fault, rfl⟩ := of_readHeader_eq_error hread
    exact .earlier hpath hl hless hfirst hbad
  · have hvalue : l.2 = k := by
      have hget := Dict.get?_eq_some_iff.2 hl
      rw [heq, h.get?] at hget
      exact (Option.some.inj hget).symm
    rw [heq] at hfirst
    rw [heq, hvalue, readHeader_of_not_isValue (by decide) hk] at hread
    cases hread
    exact .key hpath hfirst

/-- A request with a key that cannot be sent is not prepared. -/
theorem HasKey.exists_keyFault (hbase : ∃ path, base.path? = some path) :
    ∃ e, r.KeyFault e ∧ r.prepare base = .error e := by
  by_cases hpath : r.IsFillable
  · have hbad : ¬ r.HasSendableHeaders := fun hall => hk (hall _ h.mem_entries).2
    obtain ⟨l, -, -, fault, he⟩ := headers_of_not_hasSendableHeaders hbad
    exact ⟨_, h.keyFault_of_headers_eq_error hk hpath he,
      prepare_of_headers_eq_error hbase hpath he⟩
  · obtain ⟨e, he, -⟩ := expand_of_not_isFillable hpath
    exact ⟨e, .path he, prepare_of_expand_eq_error he⟩

end

/-! ## The key that steps give -/

/-- The key that a step gives, if it gives one. -/
def Step.key? : Step → Option String
  | .idempotencyKey key => key
  | _ => none

/-- The key that is given last. -/
def lastKey? (steps : List Step) : Option String := (steps.filterMap Step.key?).getLast?

variable {method : Method} {steps : List Step}

/-- Steps that give the name of the key to no other header. -/
def LeaveKey (steps : List Step) : Prop :=
  ∀ name value, .header name (some value) ∈ steps → ¬ idempotencyKeyHeader.IsSpelt name

/-- The headers that a step gives are the one it names and the key, if the method has one. -/
theorem Step.header?_eq_some_iff {step : Step} {g : String × String} :
    step.header? method = some g ↔
      step = .header g.1 (some g.2) ∨
        method.acceptsIdempotencyKey = true ∧ g.1 = idempotencyKeyName ∧ step.key? = some g.2 := by
  obtain ⟨name, value⟩ := g
  cases step with
  | header n v => cases v <;> simp [header?, key?]
  | idempotencyKey key =>
    cases key with
    | none => simp [header?, key?]
    | some k =>
      cases hmethod : method.acceptsIdempotencyKey <;>
        simp [header?, key?, hmethod, @eq_comm _ idempotencyKeyName]
  | _ => simp [header?, key?]

/-- Under the name of the key a step gives its key, if the method has one. -/
theorem Step.map_filter_header? {step : Step}
    (h : ∀ name value, step = .header name (some value) → ¬ idempotencyKeyHeader.IsSpelt name) :
    ((step.header? method).filter fun g => g.1 = idempotencyKeyName).map (·.2) =
      if method.acceptsIdempotencyKey then step.key? else none := by
  have hspelt : idempotencyKeyHeader.IsSpelt idempotencyKeyName := by decide
  refine Option.ext fun k => ?_
  rw [Option.map_eq_some_iff, Option.ite_none_right_eq_some]
  constructor
  · rintro ⟨g, hg, rfl⟩
    obtain ⟨hgiven, hname⟩ := Option.filter_eq_some_iff.1 hg
    obtain hstep | ⟨hmethod, -, hkey⟩ := Step.header?_eq_some_iff.1 hgiven
    · rw [of_decide_eq_true hname] at hstep
      exact absurd hspelt (h _ _ hstep)
    · exact ⟨hmethod, hkey⟩
  · rintro ⟨hmethod, hkey⟩
    have hgiven : step.header? method = some (idempotencyKeyName, k) :=
      Step.header?_eq_some_iff.2 (.inr ⟨hmethod, rfl, hkey⟩)
    exact ⟨_, Option.filter_eq_some_iff.2 ⟨hgiven, decide_eq_true rfl⟩, rfl⟩

/-- Under the name of the key stands the one that is given last, if the method has one. -/
theorem lastWhere_givenHeaders (h : LeaveKey steps) :
    lastWhere (· = idempotencyKeyName) (givenHeaders method steps) =
      method.keyOf (lastKey? steps) := by
  -- What the steps give under the name is what each of them gives under it, in their order.
  have hkeys : ((givenHeaders method steps).filter fun g => g.1 = idempotencyKeyName).map (·.2) =
      steps.filterMap fun step => if method.acceptsIdempotencyKey then step.key? else none := by
    rw [givenHeaders, List.filter_filterMap, List.map_filterMap]
    refine List.filterMap_congr fun step hstep => Step.map_filter_header? ?_
    rintro name value rfl
    exact h name value hstep
  rw [lastWhere, ← List.getLast?_map, hkeys, Method.keyOf_eq, lastKey?]
  split_ifs
  · rfl
  · rw [List.filterMap_none]
    rfl

/-- The key of a request is the one that is given last, whatever is given between. -/
theorem hasKey_ofSteps (method : Method) (template : String) (h : LeaveKey steps) :
    (ofSteps method template steps).HasKey (method.keyOf (lastKey? steps)) where
  get? := by rw [headerParams_ofSteps, Dict.get?_ofInserted, lastWhere_givenHeaders h]
  alone := by
    intro l hl hspelt
    rw [headerParams_ofSteps] at hl
    obtain ⟨step, hstep, hgiven⟩ :=
      List.mem_filterMap.1 (Dict.mem_of_mem_entries_foldl_insert hl)
    obtain rfl | ⟨-, hname, -⟩ := Step.header?_eq_some_iff.1 hgiven
    · exact absurd hspelt (h _ _ hstep)
    · exact hname

end Request

namespace Operation

variable {op : Operation} (args : op.Arguments)

/-- The request of an operation has no header but that of the key. -/
theorem fst_eq_of_mem_headerParams {l : String × String}
    (hl : l ∈ (op.request args).headerParams.entries) : l.1 = Request.idempotencyKeyName := by
  rw [request_eq] at hl
  cases hkey : op.key? args with
  | none =>
    rw [hkey] at hl
    exact absurd hl List.not_mem_nil
  | some key =>
    rw [hkey] at hl
    rw [List.mem_singleton.1 hl]

theorem key?_eq : op.key? args = op.method.keyOf args.idempotencyKey :=
  (Method.keyOf_eq _ _).symm

/-- The key of an operation is that of its arguments. -/
theorem hasKey_request : (op.request args).HasKey (op.method.keyOf args.idempotencyKey) where
  get? := by
    rw [request_eq, ← key?_eq]
    cases op.key? args with
    | none => rfl
    | some key => exact Dict.get?_insert_self _ _ _
  alone _ hl _ := fst_eq_of_mem_headerParams args hl

/-- The payload of an operation can always be written. -/
theorem body_request_ne_error (e : Json.ReadError) : (op.request args).body ≠ some (.error e) := by
  rw [request_eq]
  cases payloadText op.payload args.payload <;> exact fun h => by cases h

/-- If the path has no fault, a key that cannot be sent is what is reported. -/
theorem eq_of_keyFault_request (hpath : (op.request args).IsFillable) {e : Failure}
    (h : (op.request args).KeyFault e) :
    e = .invalidHeader Request.idempotencyKeyName Fault.value.message := by
  cases h with
  | path hexpand =>
    rw [Template.expand_eq_ok_iff.2 ⟨hpath, rfl⟩] at hexpand
    cases hexpand
  | earlier _ hl hless => exact absurd (fst_eq_of_mem_headerParams args hl) hless.ne
  | key => rfl

end Operation

end WebhookClient
