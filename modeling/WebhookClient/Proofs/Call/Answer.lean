import Mathlib
import WebhookClient.Proofs.Call.Exhausted
import WebhookClient.Proofs.Json.Decode
import WebhookClient.Proofs.Text.Utf8
import WebhookClient.Records.Application

/-!
# What a response amounts to

A run that ends with a response ends with a whole one: its status, and the text of all bytes of
its body. A response of success is the value that its body is read as, and a body without one is
read as `null`; status and body of all others stand in the failure. No record and no list comes of
a body that says nothing. Main statement: `call_of_endsWith`.
-/

set_option autoImplicit false

namespace WebhookClient

/-! ## Whole responses -/

/-- Only a whole response that comes in time has a status and a body. -/
theorem Reply.exists_response_of_outcome_settle {timeout status : Nat} {url : Url} {reply : Reply}
    {body : String} (h : (reply.settle timeout url).outcome = .received status body) :
    ∃ after bytes, reply = .response after status bytes ∧ after < timeout ∧
      body = bodyText status bytes := by
  cases hs : url.withoutUser.isSendable with
  | false =>
    unfold settle at h
    dsimp only at h
    rw [hs] at h
    cases h
  | true =>
    rw [outcome_settle hs] at h
    split_ifs at h with htime
    · obtain ⟨t, ht, hlt⟩ := htime
      cases reply with
      | response after other bytes =>
        cases h
        cases ht
        exact ⟨_, bytes, rfl, hlt, rfl⟩
      | cutShort after other => cases h
      | disconnect after => cases h
      | noConnection after => cases h
      | silence => cases h

/-- A run that has an outcome has that of its last attempt. -/
theorem Run.exists_settle_of_outcome {p : Plan} {o : Outcome} (pauses : List Nat) (retry now : Nat)
    (h : (proceed p pauses retry now).outcome = some o) :
    ∃ i, (proceed p pauses retry now).attempts.length = i + 1 ∧
      (p.settle (retry + i)).outcome = o := by
  induction pauses, retry, now using proceed_induction (p := p) with
  | cut pauses retry now hcut => cases h
  | last pauses retry now hcut hfinal => exact ⟨0, rfl, Option.some.inj h⟩
  | overflow pause rest retry now hcut hretryable hpause => cases h
  | again pause rest retry now hcut hretryable hpause ih =>
    obtain ⟨i, hlength, hout⟩ := ih h
    refine ⟨i + 1, congrArg (· + 1) hlength, ?_⟩
    rw [← hout, Nat.add_assoc retry 1 i, Nat.add_comm 1 i]

/-! ## Reading responses -/

/-- A body that consists of blanks only, if of anything. -/
def IsBlank (body : String) : Prop := ∀ c ∈ body.toList, Text.isBlank c = true

instance (body : String) : Decidable (IsBlank body) :=
  inferInstanceAs (Decidable (∀ c ∈ body.toList, Text.isBlank c = true))

theorem answerText_eq (body : String) :
    answerText body = if IsBlank body then "null" else body := by
  unfold answerText
  exact if_congr List.all_eq_true rfl rfl

theorem isSuccess_iff (status : Nat) : isSuccess status = true ↔ 200 ≤ status ∧ status ≤ 299 := by
  simp only [isSuccess, Bool.and_eq_true, decide_eq_true_eq]
  omega

/-- A text in the place of which `null` may be read, or that says so itself. -/
theorem decode_answerText_eq_null_iff (body : String) :
    Json.decode (answerText body) = .ok Json.null ↔
      IsBlank body ∨ Json.decode body = .ok Json.null := by
  rw [answerText_eq]
  by_cases hblank : IsBlank body
  · rw [if_pos hblank]
    exact iff_of_true Json.decode_null (.inl hblank)
  · rw [if_neg hblank]
    exact (or_iff_right hblank).symm

/-- What is answered is what a response of a status and a body amounts to. -/
structure IsAnswer {α : Type} [Json.Wire α] (status : Nat) (body : String)
    (answer : Except Failure α) : Prop where
  refused : ¬ (200 ≤ status ∧ status ≤ 299) →
    ∃ r, answer = .error (.refused r) ∧ r.status = status ∧ r.body = body
  ok_iff : 200 ≤ status ∧ status ≤ 299 →
    ∀ v, answer = .ok v ↔ Json.decode (if IsBlank body then "null" else body) = .ok v
  undecodable : 200 ≤ status ∧ status ≤ 299 → (∀ v, answer ≠ .ok v) →
    ∃ e, (Json.decode (if IsBlank body then "null" else body) : Except Json.ReadError α) =
      .error e ∧ answer = .error (.undecodable e status body)
  keeps : ∀ e, answer = .error e → e.status? = some status ∧ e.body? = some body

theorem readResponse_eq {α : Type} [Json.Wire α] (status : Nat) (body : String) :
    (readResponse status body : Except Failure α) =
      if 200 ≤ status ∧ status ≤ 299 then
        (Json.decode (if IsBlank body then "null" else body)).mapError fun e =>
          .undecodable e status body
      else .error (.refused (.ofResponse status body)) := by
  rw [readResponse, answerText_eq]
  exact if_congr (isSuccess_iff status) rfl rfl

theorem isAnswer_readResponse {α : Type} [Json.Wire α] (status : Nat) (body : String) :
    IsAnswer status body (readResponse status body : Except Failure α) := by
  rw [readResponse_eq]
  by_cases hrange : 200 ≤ status ∧ status ≤ 299
  · rw [if_pos hrange]
    refine ⟨absurd hrange, fun _ v => mapError_eq_ok_iff, fun _ hnone => ?_, fun e h => ?_⟩
    · cases hdecode : (Json.decode (if IsBlank body then "null" else body) :
          Except Json.ReadError α) with
      | ok v =>
        rw [hdecode] at hnone
        exact absurd rfl (hnone v)
      | error r => exact ⟨r, rfl, rfl⟩
    · obtain ⟨r, -, rfl⟩ := mapError_eq_error_iff.1 h
      exact ⟨rfl, rfl⟩
  · rw [if_neg hrange]
    refine ⟨fun _ => ⟨_, rfl, rfl, rfl⟩, fun h => absurd h hrange, fun h => absurd h hrange, ?_⟩
    intro e h
    cases h
    exact ⟨rfl, rfl⟩

/-- A response that succeeds is read from a text that its body stands for. -/
theorem decode_of_readResponse_eq_ok {α : Type} [Json.Wire α] {status : Nat} {body : String}
    {v : α} (h : readResponse status body = (.ok v : Except Failure α)) :
    (200 ≤ status ∧ status ≤ 299) ∧ Json.decode (answerText body) = .ok v := by
  rw [answerText_eq]
  by_cases hrange : 200 ≤ status ∧ status ≤ 299
  · exact ⟨hrange, ((isAnswer_readResponse status body).ok_iff hrange v).1 h⟩
  · obtain ⟨r, hr, -⟩ := (isAnswer_readResponse (α := α) status body).refused hrange
    rw [h] at hr
    cases hr

/-- The unit value is what success without a value amounts to. -/
theorem readResponse_eq_ok_unit_iff (status : Nat) (body : String) :
    readResponse status body = (.ok () : Except Failure Unit) ↔
      (200 ≤ status ∧ status ≤ 299) ∧
        (IsBlank body ∨ Json.decode body = .ok Json.null) := by
  rw [← decode_answerText_eq_null_iff, ← Json.decode_unit_eq_ok_iff (v := ())]
  refine ⟨decode_of_readResponse_eq_ok, fun h => ?_⟩
  rw [(isAnswer_readResponse status body).ok_iff h.1, ← answerText_eq]
  exact h.2

/-- What cannot be read from `null` does not come of a body that says nothing. -/
theorem readResponse_ne_ok_of_null {α : Type} [Json.Wire α] {body : String}
    (hbody : IsBlank body ∨ Json.decode body = .ok Json.null)
    (hα : ∀ v : α, Json.Wire.read Json.maxDepth .null ≠ .ok v) (status : Nat) (v : α) :
    readResponse status body ≠ (.ok v : Except Failure α) := by
  intro h
  have htext := (decode_answerText_eq_null_iff body).2 hbody
  exact Json.decode_ne_ok_of_null htext hα v (decode_of_readResponse_eq_ok h).2

/-! ## Calls -/

namespace Client

variable {c : Client} {request : Request} {s : Circumstances} {status : Nat} {body : String}

/-- The run of a call ends with a response: its status, and the text of its body. -/
def EndsWith (c : Client) (request : Request) (s : Circumstances) (status : Nat) (body : String) :
    Prop :=
  ∃ p, request.prepare c.baseUrl = .ok p ∧ (c.run p s).outcome = some (.received status body)

theorem result_of_endsWith (h : c.EndsWith request s status body) (α : Type) [Json.Wire α] :
    (c.call request s : Call α).result = readResponse status body := by
  obtain ⟨p, hp, hout⟩ := h
  rw [(call_of_prepare_eq_ok hp).2.1]
  exact readRun_of_outcome hout s.startedAt

/-- The response that a run ends with is the whole reply to the last attempt. -/
theorem exists_reply_of_endsWith (h : c.EndsWith request s status body) (α : Type)
    [Json.Wire α] :
    ∃ i after bytes, (c.call request s : Call α).attempts.length = i + 1 ∧
      s.reply i = .response after status bytes ∧ after < c.timeout ∧
      body = Reply.bodyText status bytes := by
  obtain ⟨p, hp, hout⟩ := h
  obtain ⟨i, hlength, hsettled⟩ :=
    Run.exists_settle_of_outcome c.retrySchedule 0 s.startedAt hout
  rw [Nat.zero_add] at hsettled
  obtain ⟨after, bytes, hreply, hafter, hbody⟩ :=
    Reply.exists_response_of_outcome_settle hsettled
  refine ⟨i, after, bytes, ?_, hreply, hafter, hbody⟩
  rw [(call_of_prepare_eq_ok hp).1]
  exact hlength

/-- A call whose run ends with a response answers what the response amounts to, whatever the type
of its answer. A call without a value succeeds just if the status is one of success and the body
is blank or says `null`, and no record or list is answered where it is or does. -/
theorem call_of_endsWith (h : c.EndsWith request s status body) :
    (∀ (α : Type) [Json.Wire α],
      (∃ i after bytes, (c.call request s : Call α).attempts.length = i + 1 ∧
        s.reply i = .response after status bytes ∧ after < c.timeout ∧
        body = Reply.bodyText status bytes) ∧
      IsAnswer status body (c.call request s : Call α).result) ∧
    ((c.call request s : Call Unit).result = .ok () ↔
      (200 ≤ status ∧ status ≤ 299) ∧ (IsBlank body ∨ Json.decode body = .ok Json.null)) ∧
    (IsBlank body ∨ Json.decode body = .ok Json.null →
      (∀ (α : Type) [Json.Record α] (v : α), (c.call request s : Call α).result ≠ .ok v) ∧
      (∀ (α ι : Type) [Json.Record ι] [Json.Flattened α ι] (v : α),
        (c.call request s : Call α).result ≠ .ok v) ∧
      ∀ (α : Type) [Json.Wire α] (vs : List α),
        (c.call request s : Call (List α)).result ≠ .ok vs) := by
  refine ⟨fun α _ => ⟨exists_reply_of_endsWith h α, ?_⟩, ?_, fun hbody => ⟨?_, ?_, ?_⟩⟩
  · rw [result_of_endsWith h]
    exact isAnswer_readResponse status body
  · rw [result_of_endsWith h]
    exact readResponse_eq_ok_unit_iff status body
  · intro α _ v
    rw [result_of_endsWith h]
    exact readResponse_ne_ok_of_null hbody Json.read_null_ne_of_record status v
  · intro α ι _ _ v
    rw [result_of_endsWith h]
    exact readResponse_ne_ok_of_null hbody Json.read_null_ne_of_flattened status v
  · intro α _ vs
    rw [result_of_endsWith h]
    exact readResponse_ne_ok_of_null hbody Json.read_null_ne_of_list status vs

/-- A service that answers at once, with a blank. -/
def blankAnswer : Circumstances where
  reply _ := .response 20 200 [0x20]
  startedAt := 0
  deadline := none
  requestId := 7

theorem endsWith_blankAnswer : retryingClient.EndsWith listing blankAnswer 200 " " := by
  have hbody : Reply.bodyText 200 [0x20] = " " :=
    congrArg String.ofList (Utf8.decode_encode [' '])
  have hout := run_listing_outcome (s := blankAnswer) rfl
    (by decide : 20 < retryingClient.timeout) (fun d hd => by cases hd)
    (fun h => absurd h (by decide))
  rw [hbody] at hout
  exact ⟨_, prepare_listing, hout⟩

/-- The blank body is an answer without a value, and is no application. -/
theorem call_listing_blankAnswer :
    retryingClient.EndsWith listing blankAnswer 200 " " ∧
      (retryingClient.call listing blankAnswer : Call Unit).result = .ok () ∧
      ∀ v, (retryingClient.call listing blankAnswer : Call ApplicationOut).result ≠ .ok v := by
  have hblank : IsBlank " " := List.forall_mem_singleton.2 rfl
  obtain ⟨-, hunit, hrecord⟩ := call_of_endsWith endsWith_blankAnswer
  exact ⟨endsWith_blankAnswer, hunit.2 ⟨by decide, .inl hblank⟩,
    (hrecord (.inl hblank)).1 ApplicationOut⟩

end Client

end WebhookClient
