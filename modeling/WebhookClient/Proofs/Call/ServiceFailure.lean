import Mathlib
import WebhookClient.Proofs.Call.Reply
import WebhookClient.Proofs.Call.Sent

/-!
# Failures of the service

A response with a status of 500 or more is a failure of the service itself. The attempt that
receives the head of one is followed by another as long as the schedule has a pause, and if it is
the last the call fails with a failure to try again; but if the body breaks off nothing of the
response counts, and the call ends with a failure that is not. Main statement:
`call_of_mayBegin`.
-/

set_option autoImplicit false

namespace WebhookClient

/-! ## Answers -/

namespace Outcome

variable {α : Type} [Json.Wire α] {o : Outcome}

/-- The failure that an outcome amounts to is retryable if the outcome is. -/
theorem isRetryable_of_answer_eq_error {e : Failure}
    (h : (o.answer : Except Failure α) = .error e) : e.isRetryable = o.isRetryable := by
  cases o with
  | failed t =>
    cases h
    rfl
  | received status body =>
    have hread : readResponse status body = (.error e : Except Failure α) := h
    unfold readResponse at hread
    split_ifs at hread with hsuccess
    · -- A response of success is not retryable, and neither is the failure to read its body.
      have hlow : ¬ 500 ≤ status := by
        simp only [isSuccess, Bool.and_eq_true, decide_eq_true_eq] at hsuccess
        omega
      have hfinal : (received status body).isRetryable = false := decide_eq_false hlow
      rw [hfinal]
      cases hdecode : (Json.decode (answerText body) : Except Json.ReadError α) with
      | ok v =>
        rw [hdecode] at hread
        cases hread
      | error r =>
        rw [hdecode] at hread
        cases hread
        rfl
    · cases hread
      rfl

/-- A retryable outcome amounts to a failure. -/
theorem exists_answer_eq_error (h : o.isRetryable = true) :
    ∃ e, (o.answer : Except Failure α) = .error e := by
  cases o with
  | failed t => exact ⟨_, rfl⟩
  | received status body =>
    have hhigh : 500 ≤ status := of_decide_eq_true h
    have hsuccess : ¬ isSuccess status = true := by
      simp only [isSuccess, Bool.and_eq_true, decide_eq_true_eq]
      omega
    refine ⟨.refused (.ofResponse status body), ?_⟩
    show readResponse status body = _
    rw [readResponse, if_neg hsuccess]

end Outcome

/-! ## Calls without a deadline -/

namespace Client

variable {α : Type} [Json.Wire α] {c : Client} {request : Request} {s : Circumstances} {i : Nat}
  {a : Attempt}

/-- A body that breaks off ends the call, whatever the status was. -/
theorem result_of_breaksOff (hd : s.deadline = none)
    (ha : (c.call request s : Call α).attempts[i]? = some a) (hreceived : a.received = true)
    (hbreak : (s.reply i).BreaksOff c.timeout) :
    (c.call request s : Call α).attempts.length = i + 1 ∧
      (c.call request s : Call α).result = .error (.transport .bodyCutShort) := by
  obtain ⟨p, -, hp, -⟩ := exists_of_mem_attempts (List.mem_of_getElem? ha)
  obtain ⟨hsettled, hnext, hlast⟩ := after_getElem?_attempts hd hp ha
  rw [hreceived] at hsettled
  have hout : (c.settled p s i).outcome = .failed .bodyCutShort :=
    Reply.outcome_settle_of_breaksOff hsettled.symm hbreak
  rw [hout] at hnext hlast
  have hlt := (List.getElem?_eq_some_iff.1 ha).1
  have hend : ¬ i + 1 < (c.call request s : Call α).attempts.length := by
    intro h
    cases (hnext.1 h).1
  have hlength : (c.call request s : Call α).attempts.length = i + 1 := by omega
  exact ⟨hlength, hlast hlength⟩

/-- An attempt at which the head of a response with a status of 500 or more may have come is
retried as long as the schedule has a pause, and the failure that the last one leaves is
retryable; but not if the body breaks off before the time of the attempt is up. -/
theorem call_of_mayBegin (hd : s.deadline = none) {status : Nat}
    (ha : (c.call request s : Call α).attempts[i]? = some a) (hreceived : a.received = true)
    (hbegin : (s.reply i).MayBegin status) (hstatus : 500 ≤ status) :
    (¬ (s.reply i).BreaksOff c.timeout →
      (∀ pause, c.retrySchedule[i]? = some pause →
        ∃ b, (c.call request s : Call α).attempts[i + 1]? = some b) ∧
      ((c.call request s : Call α).attempts.length = i + 1 →
        ∃ e, (c.call request s : Call α).result = .error e ∧ e.isRetryable = true)) ∧
    ((s.reply i).BreaksOff c.timeout →
      (c.call request s : Call α).attempts.length = i + 1 ∧
        (c.call request s : Call α).result = .error (.transport .bodyCutShort)) := by
  refine ⟨fun hwhole => ?_, result_of_breaksOff hd ha hreceived⟩
  obtain ⟨p, -, hp, -⟩ := exists_of_mem_attempts (List.mem_of_getElem? ha)
  obtain ⟨hsettled, hnext, hlast⟩ := after_getElem?_attempts hd hp ha
  rw [hreceived] at hsettled
  have hretryable : (c.settled p s i).outcome.isRetryable = true :=
    (Reply.isRetryable_settle_iff hsettled.symm hbegin hstatus).2 hwhole
  constructor
  · intro pause hpause
    have hrest : i ≠ c.retrySchedule.length := by
      have hlt := (List.getElem?_eq_some_iff.1 hpause).1
      omega
    exact ⟨_, List.getElem?_eq_getElem (hnext.2 ⟨hretryable, hrest⟩)⟩
  · intro hlength
    obtain ⟨e, he⟩ := Outcome.exists_answer_eq_error (α := α) hretryable
    refine ⟨e, (hlast hlength).trans he, ?_⟩
    rw [Outcome.isRetryable_of_answer_eq_error he]
    exact hretryable

/-- The listing of a service that is unavailable once is asked for again. -/
theorem call_listing_mayBegin :
    ∃ a, unavailableOnce.deadline = none ∧
      (retryingClient.call listing unavailableOnce : Call Json).attempts[0]? = some a ∧
      a.received = true ∧ (unavailableOnce.reply 0).MayBegin 503 ∧ 500 ≤ 503 ∧
      ∃ b, (retryingClient.call listing unavailableOnce : Call Json).attempts[1]? = some b := by
  obtain ⟨a, ha, hreceived⟩ := exists_received_listing (s := unavailableOnce) rfl rfl
  have hbegin : (unavailableOnce.reply 0).MayBegin 503 := rfl
  obtain ⟨hretried, -⟩ := (call_of_mayBegin rfl ha hreceived hbegin (by decide)).1 id
  exact ⟨a, rfl, ha, hreceived, hbegin, by decide, hretried 100 rfl⟩

/-- A service that is unavailable and does not say so to the end. -/
def unavailableCutShort : Circumstances where
  reply _ := .cutShort 20 503
  startedAt := 0
  deadline := none
  requestId := 7

/-- The settings of `retryingClient`. -/
def retryingSettings : Settings := { Settings.ofToken "testsk" with retrySchedule := [100, 200] }

theorem build_retryingSettings : build .plainNames retryingSettings = .ok retryingClient := rfl

/-- A response with a status of 503 whose body breaks off is not asked for again. -/
theorem not_forall_retried :
    ¬ ∀ (settings : Settings) (c : Client) (request : Request) (s : Circumstances)
      (i status : Nat) (a : Attempt), build .plainNames settings = .ok c → s.deadline = none →
      (c.call request s : Call Json).attempts[i]? = some a → a.received = true →
      (s.reply i).MayBegin status → 500 ≤ status →
      (∀ pause, c.retrySchedule[i]? = some pause →
        ∃ b, (c.call request s : Call Json).attempts[i + 1]? = some b) ∧
      ((c.call request s : Call Json).attempts.length = i + 1 →
        ∃ e, (c.call request s : Call Json).result = .error e ∧ e.isRetryable = true) := by
  intro hall
  have hd : unavailableCutShort.deadline = none := rfl
  have hbegin : (unavailableCutShort.reply 0).MayBegin 503 := rfl
  have hbreak : (unavailableCutShort.reply 0).BreaksOff retryingClient.timeout := by
    show 20 < Settings.defaultTimeout
    decide
  obtain ⟨a, ha, hreceived⟩ := exists_received_listing hd rfl
  obtain ⟨hlength, -⟩ := result_of_breaksOff hd ha hreceived hbreak
  obtain ⟨hretried, -⟩ := hall retryingSettings retryingClient listing unavailableCutShort 0 503 a
    build_retryingSettings hd ha hreceived hbegin (by decide)
  obtain ⟨b, hb⟩ := hretried 100 rfl
  -- There would be a second attempt, but the first is the last.
  have hlt := (List.getElem?_eq_some_iff.1 hb).1
  omega

end Client

end WebhookClient
