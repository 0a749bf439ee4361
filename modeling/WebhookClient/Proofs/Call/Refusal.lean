import Mathlib
import WebhookClient.Proofs.Call.Answer
import WebhookClient.Proofs.Json.InOrder

/-!
# What a refusal keeps

The service gives the code of a refusal in a general form, and lists rejected fields in another; no
body has both. A refusal is made of a response by reading its body in the form that belongs to the
status, and it keeps all that is said in that form, along with the status and the body itself. A
code that comes with the status of rejected fields is left in the body. Main statement:
`refusal_keeps_response`.
-/

set_option autoImplicit false

namespace WebhookClient

open Json

/-! ## The forms of a body -/

namespace Json

theorem read_string_eq_ok_iff {depth : Nat} {d : Document} {s : String} :
    Wire.read depth d = .ok s ↔ d = .string (.plain s) := by
  constructor
  · intro h
    cases d with
    | string token =>
      cases token with
      | plain t =>
        cases h
        rfl
      | _ => cases h
    | _ => cases h
  · rintro rfl
    rfl

theorem exists_items_of_read_list {α : Type} [Wire α] {depth : Nat} {d : Document} {vs : List α}
    (h : Wire.read depth d = .ok vs) : ∃ items, d = .list items := by
  cases d with
  | list items => exact ⟨items, rfl⟩
  | _ => cases h

end Json

/-- A body says a code and a wording: it is an object whose members of these names are the two
texts, whatever its other members are, or the list of the two texts. -/
inductive SaysError (body : String) (e : ServiceError) : Prop where
  | members {ns : List (String × Document)} (hs : SaysObject body ns)
      (hcode : lookup "code" ns = some (.string (.plain e.code)))
      (hdetail : lookup "detail" ns = some (.string (.plain e.detail)))
      (hsingle : (namesOf ns).count "code" ≤ 1 ∧ (namesOf ns).count "detail" ≤ 1)
      (hothers : ∀ m ∈ ns, m.1 ≠ "code" → m.1 ≠ "detail" → m.2.skip = .ok ())
  | items (hs : SaysList body [.string (.plain e.code), .string (.plain e.detail)])

namespace ServiceError

variable {body : String} {e : ServiceError} {depth : Nat}

theorem takes_iff {ns : List (String × Document)} :
    (Record.fields (α := ServiceError)).Takes depth ns (Record.toRow e) ↔
      lookup "code" ns = some (.string (.plain e.code)) ∧
        lookup "detail" ns = some (.string (.plain e.detail)) := by
  have hfield : ∀ (name s : String), (Field.required name).Takes depth ns s ↔
      lookup name ns = some (.string (.plain s)) := by
    intro name s
    rw [Field.takes_required_iff]
    simp only [read_string_eq_ok_iff, exists_eq_right]
  show (Field.required "code").Takes depth ns e.code ∧
    (Field.required "detail").Takes depth ns e.detail ∧ True ↔ _
  rw [hfield, hfield, and_true]

theorem takesInOrder_iff {ds : List Document} :
    (Record.fields (α := ServiceError)).TakesInOrder depth ds (Record.toRow e) ↔
      ds = [.string (.plain e.code), .string (.plain e.detail)] := by
  constructor
  · intro h
    obtain _ | ⟨c, _ | ⟨d, ds⟩⟩ := ds
    · exact nomatch h.1
    · exact nomatch h.2.1
    · obtain ⟨hcode, hdetail, hrest⟩ := h
      rw [read_string_eq_ok_iff.1 hcode, read_string_eq_ok_iff.1 hdetail, show ds = [] from hrest]
  · rintro rfl
    exact ⟨read_string_eq_ok_iff.2 rfl, read_string_eq_ok_iff.2 rfl, rfl⟩

/-- The general form is read just from the texts that say a code and a wording. -/
theorem decode_eq_ok_iff_saysError : decode body = .ok e ↔ SaysError body e := by
  have hnames : (Record.fields (α := ServiceError)).names = ["code", "detail"] := rfl
  have hsingle : ∀ ns, (Record.fields (α := ServiceError)).IsSingle ns ↔
      (namesOf ns).count "code" ≤ 1 ∧ (namesOf ns).count "detail" ≤ 1 := by
    intro ns
    rw [Fields.isSingle_iff, hnames, List.forall_mem_cons, List.forall_mem_singleton]
  have hother : ∀ k, k ∉ (Record.fields (α := ServiceError)).names ↔
      k ≠ "code" ∧ k ≠ "detail" := by
    intro k
    rw [hnames, List.mem_cons, List.mem_singleton, not_or]
  rw [Record.decode_iff (by rw [hnames]; decide)]
  simp only [hsingle, hother, takes_iff, takesInOrder_iff]
  constructor
  · rintro (⟨ns, hs, hsingle, hothers, hcode, hdetail⟩ | ⟨_, hs, rfl⟩)
    · exact .members hs hcode hdetail hsingle fun m hm hc hd => hothers m hm ⟨hc, hd⟩
    · exact .items hs
  · rintro (⟨hs, hcode, hdetail, hsingle, hothers⟩ | hs)
    · exact .inl ⟨_, hs, hsingle, fun m hm h => hothers m hm h.1 h.2, hcode, hdetail⟩
    · exact .inr ⟨_, hs, rfl⟩

/-- No body has the general form and that of rejected fields: its `detail` would be a text and a
list, or it would be a list of two values and of one. -/
theorem decode_ne_ok_of_saysError (h : SaysError body e) (v : ValidationFailure) :
    decode body ≠ .ok v := by
  have hnames : (Record.fields (α := ValidationFailure)).names.Nodup := by decide
  rw [ne_eq, Record.decode_iff hnames]
  rintro (⟨ns, hns, -, -, htakes⟩ | ⟨ds, hds, htakes⟩)
  · obtain ⟨hs, -, hdetail⟩ | hs := h
    -- Both forms of an object name a `detail`, of a text the one and of a list the other.
    · have heq := (Text.mk.inj (hs.symm.trans hns)).1
      cases asMembers_injective (Document.object.inj heq)
      obtain ⟨d, hd, hread⟩ := Field.takes_required_iff.1 htakes.1
      obtain ⟨items, rfl⟩ := exists_items_of_read_list hread
      cases hdetail.symm.trans hd
    · cases hs.symm.trans hns
  · obtain ⟨hs⟩ | hs := h
    · cases hs.symm.trans hds
    · obtain _ | ⟨d, _ | ⟨d', ds⟩⟩ := ds
      · exact nomatch htakes.1
      · cases hs.symm.trans hds
      · cases htakes.2

end ServiceError

/-! ## Refusals -/

namespace Refusal

variable {status : Nat} {body : String}

/-- A refusal keeps a response: its status and its body, and what the body says in the form that
belongs to the status, if it has that form. -/
structure Keeps (r : Refusal) (status : Nat) (body : String) : Prop where
  status_eq : r.status = status
  body_eq : r.body = body
  general_iff : ∀ e : ServiceError, r.detail = some (.general e) ↔
    status ≠ unprocessable ∧ decode body = .ok e
  code_iff : ∀ code, r.code? = some code ↔
    status ≠ unprocessable ∧ ∃ e : ServiceError, decode body = .ok e ∧ e.code = code
  rejectedFields_iff : ∀ v : ValidationFailure, r.detail = some (.rejectedFields v) ↔
    status = unprocessable ∧ decode body = .ok v
  none_iff : r.detail = none ↔
    (status ≠ unprocessable → ∀ e : ServiceError, decode body ≠ .ok e) ∧
      (status = unprocessable → ∀ v : ValidationFailure, decode body ≠ .ok v)

/-- The code is that of a body in the general form. -/
theorem code?_eq_some_iff {r : Refusal} {code : String} :
    r.code? = some code ↔ ∃ e, r.detail = some (.general e) ∧ e.code = code := by
  obtain ⟨status, body, detail⟩ := r
  cases detail with
  | none => exact iff_of_false nofun nofun
  | some d =>
    cases d with
    | general e => simp [code?]
    | rejectedFields v => exact iff_of_false nofun (by simp)

theorem detail_ofResponse_of_ne (h : status ≠ unprocessable) : (ofResponse status body).detail =
    (decode (α := ServiceError) body).toOption.map .general :=
  if_neg h

theorem detail_ofResponse_of_eq (h : status = unprocessable) : (ofResponse status body).detail =
    (decode (α := ValidationFailure) body).toOption.map .rejectedFields :=
  if_pos h

theorem detail_ofResponse_eq_general_iff {e : ServiceError} :
    (ofResponse status body).detail = some (.general e) ↔
      status ≠ unprocessable ∧ decode body = .ok e := by
  by_cases h : status = unprocessable
  · rw [detail_ofResponse_of_eq h, map_toOption_eq_some_iff]
    exact iff_of_false nofun fun hne => hne.1 h
  · rw [detail_ofResponse_of_ne h, map_toOption_eq_some_iff, and_iff_right h]
    simp

theorem detail_ofResponse_eq_rejectedFields_iff {v : ValidationFailure} :
    (ofResponse status body).detail = some (.rejectedFields v) ↔
      status = unprocessable ∧ decode body = .ok v := by
  by_cases h : status = unprocessable
  · rw [detail_ofResponse_of_eq h, map_toOption_eq_some_iff, and_iff_right h]
    simp
  · rw [detail_ofResponse_of_ne h, map_toOption_eq_some_iff]
    exact iff_of_false nofun fun heq => h heq.1

theorem detail_ofResponse_eq_none_iff : (ofResponse status body).detail = none ↔
    (status ≠ unprocessable → ∀ e : ServiceError, decode body ≠ .ok e) ∧
      (status = unprocessable → ∀ v : ValidationFailure, decode body ≠ .ok v) := by
  by_cases h : status = unprocessable
  · rw [detail_ofResponse_of_eq h, map_toOption_eq_none_iff, imp_iff_right h]
    exact (and_iff_right fun hne => absurd h hne).symm
  · rw [detail_ofResponse_of_ne h, map_toOption_eq_none_iff, imp_iff_right h]
    exact (and_iff_left fun heq => absurd heq h).symm

theorem keeps_ofResponse (status : Nat) (body : String) :
    (ofResponse status body).Keeps status body where
  status_eq := rfl
  body_eq := rfl
  general_iff _ := detail_ofResponse_eq_general_iff
  code_iff code := by
    simp only [code?_eq_some_iff, detail_ofResponse_eq_general_iff, and_assoc, exists_and_left]
  rejectedFields_iff _ := detail_ofResponse_eq_rejectedFields_iff
  none_iff := detail_ofResponse_eq_none_iff

end Refusal

/-- What refuses a call keeps the response: the code that the body gives unless the status is that
of rejected fields, the rejected fields if it is, and in any case the status and the body. A body
gives a code just if it says one, and then it lists no rejected fields. -/
theorem refusal_keeps_response (status : Nat) (body : String) :
    (Refusal.ofResponse status body).Keeps status body ∧
      (∀ e : ServiceError, decode body = .ok e ↔ SaysError body e) ∧
      (∀ e : ServiceError, decode body = .ok e → ∀ v : ValidationFailure, decode body ≠ .ok v) ∧
      ∀ (c : Client) (request : Request) (s : Circumstances), c.EndsWith request s status body →
        ¬ (200 ≤ status ∧ status ≤ 299) → ∀ (α : Type) [Wire α],
          (c.call request s : Call α).result = .error (.refused (.ofResponse status body)) := by
  refine ⟨Refusal.keeps_ofResponse status body, fun e => ServiceError.decode_eq_ok_iff_saysError,
    fun e he => ?_, fun c request s h hrange α _ => ?_⟩
  · exact ServiceError.decode_ne_ok_of_saysError (ServiceError.decode_eq_ok_iff_saysError.1 he)
  · rw [Client.result_of_endsWith h, readResponse_eq, if_neg hrange]

/-- The body of a refusal in the general form. -/
def notFoundBody : String := "\x7b\"code\":\"not_found\",\"detail\":\"Entity not found\"\x7d"

theorem decode_notFoundBody :
    decode notFoundBody = .ok (⟨"not_found", "Entity not found"⟩ : ServiceError) := by
  cbv

/-- A service that knows no entity, and says so. -/
def notFoundAnswer : Circumstances where
  reply _ := .response 20 404 (Utf8.encode notFoundBody.toList)
  startedAt := 0
  deadline := none
  requestId := 7

theorem endsWith_notFoundAnswer :
    Client.retryingClient.EndsWith Client.listing notFoundAnswer 404 notFoundBody := by
  have hbody : Reply.bodyText 404 (Utf8.encode notFoundBody.toList) = notFoundBody := by
    show String.ofList (Utf8.decode (Utf8.encode notFoundBody.toList)) = notFoundBody
    rw [Utf8.decode_encode, String.ofList_toList]
  have hout := Client.run_listing_outcome (s := notFoundAnswer) rfl
    (by decide : 20 < Client.retryingClient.timeout) (fun d hd => by cases hd)
    (fun h => absurd h (by decide))
  rw [hbody] at hout
  exact ⟨_, Client.prepare_listing, hout⟩

/-- The code of the service comes with the failure of the call. -/
theorem call_listing_notFoundAnswer :
    Client.retryingClient.EndsWith Client.listing notFoundAnswer 404 notFoundBody ∧
      ∃ r : Refusal, (Client.retryingClient.call Client.listing notFoundAnswer : Call Json).result =
          .error (.refused r) ∧
        r.code? = some "not_found" ∧ r.status = 404 ∧ r.body = notFoundBody := by
  obtain ⟨hkeeps, -, -, hcall⟩ := refusal_keeps_response 404 notFoundBody
  refine ⟨endsWith_notFoundAnswer, _, hcall _ _ _ endsWith_notFoundAnswer (by decide) Json, ?_,
    hkeeps.status_eq, hkeeps.body_eq⟩
  exact (hkeeps.code_iff "not_found").2 ⟨by decide, _, decode_notFoundBody, rfl⟩

/-- With the status of rejected fields, a code that the body gives is not taken for one. -/
theorem not_forall_code_is_kept :
    ¬ ∀ (status : Nat) (body : String) (e : ServiceError), ¬ (200 ≤ status ∧ status ≤ 299) →
      decode body = .ok e → (Refusal.ofResponse status body).code? = some e.code := by
  intro h
  have hcode := h 422 notFoundBody _ (by decide) decode_notFoundBody
  obtain ⟨hstatus, -⟩ := ((Refusal.keeps_ofResponse 422 notFoundBody).code_iff _).1 hcode
  exact hstatus rfl

end WebhookClient
