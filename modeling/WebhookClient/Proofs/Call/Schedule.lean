import Mathlib
import WebhookClient.Call.Basic
import WebhookClient.Proofs.Call.Reply
import WebhookClient.Proofs.Call.Run
import WebhookClient.Proofs.Client.Default
import WebhookClient.Proofs.Request.Basic

/-!
# Calls without a deadline

A call without a deadline makes attempts until one has an outcome that is not retryable or the
schedule is used up, pauses between two of them as the schedule says, and answers what the last
outcome amounts to. Main statement: `call_of_deadline_eq_none`.
-/

set_option autoImplicit false

namespace WebhookClient

/-! ## Outcomes and answers -/

/-- The answer that an outcome amounts to. -/
def Outcome.answer {α : Type} [Json.Wire α] : Outcome → Except Failure α
  | .failed e => .error (.transport e)
  | .received status body => readResponse status body

theorem readRun_of_outcome {α : Type} [Json.Wire α] {r : Run} {o : Outcome}
    (h : r.outcome = some o) (start : Nat) : readRun start r = (o.answer : Except Failure α) := by
  rw [readRun, Run.outcome_eq_some_iff.1 h]
  cases o <;> rfl

theorem Outcome.isRetryable_received_iff (status : Nat) (body : String) :
    (Outcome.received status body).isRetryable = true ↔ 500 ≤ status :=
  decide_eq_true_iff

/-- Failures of transport are retryable unless the request cannot be sent or the body of the
response broke off. -/
theorem Outcome.isRetryable_failed_iff (e : TransportError) :
    (Outcome.failed e).isRetryable = true ↔
      (∀ url, e ≠ .unsendable url) ∧ e ≠ .bodyCutShort := by
  cases e <;> simp [Outcome.isRetryable, TransportError.isRetryable]

/-! ## Calls -/

namespace Client

/-- What the attempt of a number comes to. -/
def settled (c : Client) (p : Request.Prepared) (s : Circumstances) (i : Nat) : Settled :=
  (c.plan p s).settle i

variable {α : Type} [Json.Wire α] {c : Client} {request : Request} {p : Request.Prepared}
  {s : Circumstances}

theorem call_of_prepare_eq_ok (hp : request.prepare c.baseUrl = .ok p) :
    (c.call request s : Call α).attempts = (c.run p s).attempts ∧
      (c.call request s : Call α).result = readRun s.startedAt (c.run p s) ∧
      (c.call request s : Call α).finishedAt = (c.run p s).finishedAt := by
  unfold call
  rw [hp]
  exact ⟨rfl, rfl, rfl⟩

/-- A call whose request can be sent makes an attempt. -/
theorem exists_first_attempt (hp : request.prepare c.baseUrl = .ok p) :
    ∃ a, (c.call request s : Call α).attempts[0]? = some a := by
  obtain ⟨a, later, hcons, -⟩ :=
    Run.exists_attempts_eq_cons (c.plan p s) c.retrySchedule 0 s.startedAt
  refine ⟨a, ?_⟩
  rw [(call_of_prepare_eq_ok hp).1, run, hcons]
  rfl

/-- Without a deadline an attempt is followed by another one if its outcome is retryable and a
pause remains. If none follows, its outcome is the answer. -/
theorem after_getElem?_attempts {i : Nat} {a : Attempt} (hd : s.deadline = none)
    (hp : request.prepare c.baseUrl = .ok p)
    (ha : (c.call request s : Call α).attempts[i]? = some a) :
    a.received = (c.settled p s i).received ∧
      (i + 1 < (c.call request s : Call α).attempts.length ↔
        (c.settled p s i).outcome.isRetryable = true ∧ i ≠ c.retrySchedule.length) ∧
      ((c.call request s : Call α).attempts.length = i + 1 →
        (c.call request s : Call α).result = (c.settled p s i).outcome.answer) := by
  obtain ⟨hattempts, hresult, -⟩ := call_of_prepare_eq_ok (α := α) (s := s) hp
  have hplan : (c.plan p s).deadline = none := hd
  rw [hattempts, run] at ha
  rw [hattempts, hresult, run]
  refine ⟨?_, ?_, ?_⟩
  · obtain ⟨start, rfl⟩ := Run.exists_eq_attempt hplan ha
    show ((c.plan p s).settle (0 + i)).received = _
    rw [Nat.zero_add]
    rfl
  · have hlt := (List.getElem?_eq_some_iff.1 ha).1
    rw [Run.succ_lt_length_attempts_iff hplan hlt, Run.Plan.Ends, Nat.zero_add, not_or,
      Bool.not_eq_false]
    rfl
  · intro hlength
    have hout := Run.outcome_of_length_attempts hplan hlength
    rw [Nat.zero_add] at hout
    exact readRun_of_outcome hout s.startedAt

/-- The attempts of a call without a deadline, their pauses and its answer. -/
theorem call_of_deadline_eq_none (hp : request.prepare c.baseUrl = .ok p)
    (hd : s.deadline = none) :
    (∃ k ≤ maxRetries,
      IsLeast {i | (c.settled p s i).outcome.isRetryable = false ∨ i = c.retrySchedule.length} k ∧
      (c.call request s : Call α).attempts.map (·.sent) =
        (List.range (k + 1)).map (Sent.ofAttempt c p s.requestId) ∧
      (c.call request s : Call α).attempts.map (·.outcome) =
        (List.range (k + 1)).map (fun i => some (c.settled p s i).outcome) ∧
      (∀ i a b, (c.call request s : Call α).attempts[i]? = some a →
        (c.call request s : Call α).attempts[i + 1]? = some b →
          ∃ pause, c.retrySchedule[i]? = some pause ∧
            b.startedAt = a.startedAt + (c.settled p s i).duration + pause) ∧
      (c.call request s : Call α).result = (c.settled p s k).outcome.answer) ∧
    (∀ status body, (Outcome.received status body).isRetryable = true ↔ 500 ≤ status) ∧
    ∀ e, (Outcome.failed e).isRetryable = true ↔
      (∀ url, e ≠ .unsendable url) ∧ e ≠ .bodyCutShort := by
  refine ⟨?_, Outcome.isRetryable_received_iff, Outcome.isRetryable_failed_iff⟩
  obtain ⟨hattempts, hresult, -⟩ := call_of_prepare_eq_ok (α := α) (s := s) hp
  have hplan : (c.plan p s).deadline = none := hd
  obtain ⟨k, hk, hrun⟩ :=
    Run.proceed_of_deadline_eq_none hplan c.retrySchedule 0 s.startedAt
  have hk' : IsLeast
      {i | (c.settled p s i).outcome.isRetryable = false ∨ i = c.retrySchedule.length} k := by
    unfold settled
    simpa only [Run.Plan.Ends, Nat.zero_add] using hk
  have hlength : k ≤ c.retrySchedule.length := hk'.2 (.inr rfl)
  have hgap : ∀ i a b, (c.run p s).attempts[i]? = some a → (c.run p s).attempts[i + 1]? = some b →
      ∃ pause, c.retrySchedule[i]? = some pause ∧
        b.startedAt = a.startedAt + (c.settled p s i).duration + pause := by
    intro i a b ha hb
    have hstart := Run.startedAt_succ (c.plan p s) c.retrySchedule 0 s.startedAt ha hb
    rw [Nat.zero_add] at hstart
    exact hstart
  rw [hattempts, hresult]
  rw [run, hrun] at hgap ⊢
  refine ⟨k, hlength.trans c.schedule_length, hk', ?_, ?_, hgap, ?_⟩
  · rw [Run.Plan.course, List.map_map]
    refine List.map_congr_left fun i _ => ?_
    show (c.plan p s).sent (0 + i) = _
    rw [Nat.zero_add]
    rfl
  · rw [Run.Plan.course, List.map_map]
    refine List.map_congr_left fun i _ => ?_
    show some ((c.plan p s).settle (0 + i)).outcome = _
    rw [Nat.zero_add]
    rfl
  · rw [readRun_of_outcome rfl, Nat.zero_add]
    rfl

/-- The request for the applications. -/
def listing : Request := Request.new .get "/api/v1/app"

/-- The URL of the applications. -/
def listingUrl : Url :=
  { defaultUrl with location := .segments ["api".toList, "v1".toList, "app".toList] }

theorem prepare_listing : listing.prepare defaultUrl = .ok ⟨.get, listingUrl, .empty, none⟩ := rfl

theorem isSendable_listingUrl : listingUrl.withoutUser.isSendable = true := by
  have hlength : listingUrl.withoutUser.render.length = 31 := rfl
  have hshort : listingUrl.withoutUser.render.length ≤ maxUrlLength := by
    rw [hlength, maxUrlLength]
    omega
  unfold Url.isSendable
  rw [decide_eq_true hshort]
  rfl

theorem exists_prepare_listing : ∃ p, listing.prepare defaultUrl = .ok p := ⟨_, prepare_listing⟩

/-- A service that is unavailable once. -/
def unavailableOnce : Circumstances where
  reply i := .response 20 (if i = 0 then 503 else 200) []
  startedAt := 0
  deadline := none
  requestId := 7

/-- A client that may retry twice. -/
def retryingClient : Client :=
  { testClient with
    retrySchedule := [100, 200]
    schedule_length := by decide }

/-- A response in time is what the first attempt at the listing comes to. -/
theorem settle_listing {after status : Nat} {bytes : List UInt8}
    (hreply : s.reply 0 = .response after status bytes) (hafter : after < c.timeout) :
    (c.plan ⟨.get, listingUrl, .empty, none⟩ s).settle 0 =
      ⟨after, .received status (Reply.bodyText status bytes), true⟩ := by
  rw [← Reply.settle_response isSendable_listingUrl hafter, ← hreply]
  rfl

/-- The listing ends with the first response if that may not be better the next time, or if the
pause after it would last too long. -/
theorem run_listing {after status : Nat} {bytes : List UInt8}
    (hreply : s.reply 0 = .response after status bytes) (hafter : after < retryingClient.timeout)
    (hcut : ∀ d, s.deadline = some d → s.startedAt + after ≤ d ∧ s.startedAt < d)
    (hlast : 500 ≤ status → Run.pausing s.deadline (s.startedAt + after + 100) = .tooLong) :
    retryingClient.run ⟨.get, listingUrl, .empty, none⟩ s =
      (retryingClient.plan ⟨.get, listingUrl, .empty, none⟩ s).last 0 s.startedAt := by
  have hsettled := settle_listing (c := retryingClient) hreply hafter
  have hstop : (retryingClient.plan ⟨.get, listingUrl, .empty, none⟩ s).stop 0 s.startedAt =
      s.startedAt + after := by
    rw [Run.Plan.stop, hsettled]
  refine Run.proceed_of_isFinal ?_ ?_
  · rw [hsettled]
    exact Run.isCutOff_eq_false hcut
  · intro pause hpause hretryable
    cases hpause
    rw [hsettled] at hretryable
    rw [hstop]
    exact hlast (of_decide_eq_true hretryable)

theorem run_listing_outcome {after status : Nat} {bytes : List UInt8}
    (hreply : s.reply 0 = .response after status bytes) (hafter : after < retryingClient.timeout)
    (hcut : ∀ d, s.deadline = some d → s.startedAt + after ≤ d ∧ s.startedAt < d)
    (hlast : 500 ≤ status → Run.pausing s.deadline (s.startedAt + after + 100) = .tooLong) :
    (retryingClient.run ⟨.get, listingUrl, .empty, none⟩ s).outcome =
      some (.received status (Reply.bodyText status bytes)) := by
  rw [run_listing hreply hafter hcut hlast]
  exact congrArg (some ∘ Settled.outcome) (settle_listing hreply hafter)

/-- The first attempt at the listing reaches a server that can be connected to. -/
theorem exists_received_listing {s : Circumstances} (hd : s.deadline = none)
    (hreply : (s.reply 0).isReceived = true) :
    ∃ a, (retryingClient.call listing s : Call Json).attempts[0]? = some a ∧
      a.received = true := by
  have hp : listing.prepare retryingClient.baseUrl = .ok ⟨.get, listingUrl, .empty, none⟩ :=
    prepare_listing
  obtain ⟨a, ha⟩ := exists_first_attempt (α := Json) (s := s) hp
  refine ⟨a, ha, ?_⟩
  rw [(after_getElem?_attempts hd hp ha).1]
  exact (Reply.received_settle isSendable_listingUrl).trans hreply

/-- The listing ends after the first outcome that is not retryable. -/
theorem call_listing_unavailableOnce :
    ∃ p, listing.prepare retryingClient.baseUrl = .ok p ∧ unavailableOnce.deadline = none ∧
      ∃ k ≤ maxRetries,
        IsLeast {i | (retryingClient.settled p unavailableOnce i).outcome.isRetryable = false ∨
          i = retryingClient.retrySchedule.length} k ∧
        (retryingClient.call listing unavailableOnce : Call Json).result =
          (retryingClient.settled p unavailableOnce k).outcome.answer := by
  obtain ⟨p, hp⟩ := exists_prepare_listing
  have hp' : listing.prepare retryingClient.baseUrl = .ok p := hp
  have hd : unavailableOnce.deadline = none := rfl
  obtain ⟨⟨k, hk, hleast, -, -, -, hresult⟩, -⟩ := call_of_deadline_eq_none (α := Json) hp' hd
  exact ⟨p, hp, hd, k, hk, hleast, hresult⟩

end Client

end WebhookClient
