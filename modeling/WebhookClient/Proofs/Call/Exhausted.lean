import Mathlib
import WebhookClient.Proofs.Call.Deadline
import WebhookClient.Proofs.Call.ServiceFailure

/-!
# When a client gives up

A run goes on as long as its attempts come to outcomes that may be better the next time, so all
attempts but the last did. The last did not, unless the schedule was used up or the next pause
would have lasted to the deadline. The failure of a call is retryable just if its last outcome was,
so it tells which of the two it is. Main statements: `Run.exists_last_of_outcome` and
`call_of_attempts_ne_nil`.
-/

set_option autoImplicit false

namespace WebhookClient

/-- An attempt has come to an outcome, one that is retryable or one that is not. -/
def Attempt.HasSettled (a : Attempt) (retryable : Bool) : Prop :=
  ∃ o, a.outcome = some o ∧ o.isRetryable = retryable

/-! ## Runs -/

namespace Run

/-- A run that has an outcome has it from its last attempt, and the outcomes of all others were
retryable. If it is retryable too no pause was left, or the next one would have lasted too long. -/
theorem exists_last_of_outcome {p : Plan} {o : Outcome} (pauses : List Nat) (retry now : Nat)
    (h : (proceed p pauses retry now).outcome = some o) :
    ∃ front a, (proceed p pauses retry now).attempts = front ++ [a] ∧ a.outcome = some o ∧
      (∀ b ∈ front, b.HasSettled true) ∧
      (o.isRetryable = true → front.length = pauses.length ∨
        ∃ pause, pauses[front.length]? = some pause ∧
          pausing p.deadline ((proceed p pauses retry now).finishedAt + pause) = .tooLong) := by
  induction pauses, retry, now using proceed_induction (p := p) with
  | cut pauses retry now hcut => cases h
  | overflow pause rest retry now hcut hretryable hpause => cases h
  | last pauses retry now hcut hfinal =>
    have ho : (p.settle retry).outcome = o := Option.some.inj h
    refine ⟨[], p.attempt retry now, rfl, h, fun b hb => absurd hb List.not_mem_nil, ?_⟩
    intro hretryable
    rw [← ho] at hretryable
    cases pauses with
    | nil => exact .inl rfl
    | cons pause rest => exact .inr ⟨pause, rfl, hfinal pause rfl hretryable⟩
  | again pause rest retry now hcut hretryable hpause ih =>
    obtain ⟨front, a, hattempts, ha, hfront, hend⟩ := ih h
    refine ⟨p.attempt retry now :: front, a, ?_, ha, ?_, ?_⟩
    · exact congrArg (p.attempt retry now :: ·) hattempts
    · intro b hb
      obtain rfl | hb := List.mem_cons.1 hb
      · exact ⟨_, rfl, hretryable⟩
      · exact hfront b hb
    · intro hlast
      rw [List.length_cons, List.length_cons, Nat.add_right_cancel_iff, List.getElem?_cons_succ]
      exact hend hlast

end Run

/-! ## Calls -/

namespace Client

variable {α : Type} [Json.Wire α] {c : Client} {request : Request} {s : Circumstances}

/-- A call whose run has an outcome: the attempts, and the answer that the outcome amounts to. -/
theorem exists_last_of_run {p : Request.Prepared} (hp : request.prepare c.baseUrl = .ok p)
    {o : Outcome} (ho : (c.run p s).outcome = some o) :
    ∃ front a, (c.call request s : Call α).attempts = front ++ [a] ∧ a.outcome = some o ∧
      (c.call request s : Call α).result = o.answer ∧ (∀ b ∈ front, b.HasSettled true) ∧
      (o.isRetryable = true → front.length = c.retrySchedule.length ∨
        ∃ d pause, s.deadline = some d ∧ c.retrySchedule[front.length]? = some pause ∧
          d ≤ (c.call request s : Call α).finishedAt + pause) := by
  obtain ⟨hattempts, hresult, hfinish⟩ := call_of_prepare_eq_ok (α := α) (s := s) hp
  obtain ⟨front, a, hfront, ha, hsettled, hend⟩ :=
    Run.exists_last_of_outcome c.retrySchedule 0 s.startedAt ho
  rw [hattempts, hresult, hfinish]
  refine ⟨front, a, hfront, ha, readRun_of_outcome ho s.startedAt, hsettled, fun hretryable => ?_⟩
  refine (hend hretryable).imp_right ?_
  rintro ⟨pause, hpause, hlong⟩
  have hdeadline : (c.plan p s).deadline = s.deadline := rfl
  rw [hdeadline] at hlong
  cases hd : s.deadline with
  | none =>
    rw [hd, Run.pausing_none] at hlong
    cases hlong
  | some d =>
    rw [hd, Run.pausing_some_eq_tooLong_iff] at hlong
    exact ⟨d, pause, rfl, hpause, hlong.2⟩

/-- A call that is cut off answers that its deadline has passed. -/
theorem result_of_run_ending_eq_cutOff {p : Request.Prepared}
    (hp : request.prepare c.baseUrl = .ok p) (hend : (c.run p s).ending = .cutOff) :
    ∃ ms, (c.call request s : Call α).result = .error (.deadlineExceeded ms) := by
  rw [(call_of_prepare_eq_ok hp).2.1, readRun, hend]
  exact ⟨_, rfl⟩

/-- A call that returns has an instant for each of its pauses. -/
theorem run_ending_ne_overflow (hreturns : (c.call request s : Call α).Returns)
    {p : Request.Prepared} (hp : request.prepare c.baseUrl = .ok p) :
    (c.run p s).ending ≠ .overflow := by
  intro hend
  refine hreturns overflowText ?_
  rw [(call_of_prepare_eq_ok hp).2.1, readRun, hend]

/-- The outcome of the last attempt amounts to the answer. -/
theorem result_of_getLast?_attempts (hreturns : (c.call request s : Call α).Returns) {a : Attempt}
    {o : Outcome} (ha : (c.call request s : Call α).attempts.getLast? = some a)
    (ho : a.outcome = some o) :
    (c.call request s : Call α).result = o.answer := by
  obtain ⟨p, -, hp, -⟩ := exists_of_mem_attempts (List.mem_of_getLast? ha)
  obtain ⟨hattempts, hresult, -⟩ := call_of_prepare_eq_ok (α := α) (s := s) hp
  rw [hattempts] at ha
  rw [hresult]
  refine readRun_of_outcome ?_ s.startedAt
  have hend := run_ending_ne_overflow hreturns hp
  rw [run] at ha hend ⊢
  rw [Run.outcome_eq_getLast? hend, ha]
  exact ho

/-- A call that makes an attempt and returns, and its answer. The failure is retryable just if the
outcome of the last attempt is. If it is the schedule is used up, or the next pause would have
lasted to the deadline. If the call succeeds, or fails otherwise than by its deadline and for good,
the last attempt came to an outcome that is not retryable, and all others to outcomes that are. -/
theorem call_of_attempts_ne_nil (hne : (c.call request s : Call α).attempts ≠ [])
    (hreturns : (c.call request s : Call α).Returns) :
    (∀ a o e, (c.call request s : Call α).attempts.getLast? = some a → a.outcome = some o →
      (c.call request s : Call α).result = .error e → e.isRetryable = o.isRetryable) ∧
    (∀ e, (c.call request s : Call α).result = .error e → e.isRetryable = true →
      (c.call request s : Call α).attempts.length = c.retrySchedule.length + 1 ∨
      ∃ d pause, s.deadline = some d ∧
        c.retrySchedule[(c.call request s : Call α).attempts.length - 1]? = some pause ∧
        d ≤ (c.call request s : Call α).finishedAt + pause) ∧
    ((∀ e, (c.call request s : Call α).result = .error e →
        e.isRetryable = false ∧ ∀ ms, e ≠ .deadlineExceeded ms) →
      ∃ front a, (c.call request s : Call α).attempts = front ++ [a] ∧ a.HasSettled false ∧
        ∀ b ∈ front, b.HasSettled true) := by
  refine ⟨?_, ?_⟩
  · intro a o e ha ho he
    rw [result_of_getLast?_attempts hreturns ha ho] at he
    exact Outcome.isRetryable_of_answer_eq_error he
  obtain ⟨a₀, ha₀⟩ := List.exists_mem_of_ne_nil _ hne
  obtain ⟨p, -, hp, -⟩ := exists_of_mem_attempts ha₀
  cases hend : (c.run p s).ending with
  | overflow => exact absurd hend (run_ending_ne_overflow hreturns hp)
  | cutOff =>
    -- The last attempt was cut off: the failure is that the deadline has passed.
    obtain ⟨ms, hms⟩ := result_of_run_ending_eq_cutOff (α := α) hp hend
    refine ⟨?_, fun hfinal => absurd rfl ((hfinal _ hms).2 ms)⟩
    intro e he hretryable
    rw [hms] at he
    cases he
    cases hretryable
  | settled o =>
    obtain ⟨front, a, hattempts, ha, hresult, hfront, hlast⟩ :=
      exists_last_of_run (α := α) hp (Run.outcome_eq_some_iff.2 hend)
    rw [hattempts, hresult]
    refine ⟨?_, ?_⟩
    · intro e he hretryable
      rw [Outcome.isRetryable_of_answer_eq_error he] at hretryable
      rw [List.length_append, List.length_singleton, Nat.add_right_cancel_iff, Nat.add_sub_cancel]
      exact hlast hretryable
    · intro hfinal
      refine ⟨front, a, rfl, ⟨o, ha, ?_⟩, hfront⟩
      -- A retryable outcome would amount to a retryable failure.
      cases hretryable : o.isRetryable with
      | false => rfl
      | true =>
        obtain ⟨e, he⟩ := Outcome.exists_answer_eq_error (α := α) hretryable
        have hsame := Outcome.isRetryable_of_answer_eq_error he
        rw [(hfinal e he).1, hretryable] at hsame
        cases hsame

/-- A deadline in the pause after the first attempt: the failure is retryable, and it is the pause
that does not fit. -/
theorem call_listing_exhausted :
    (retryingClient.call listing (unavailableOnce.withDeadline (some 70)) :
        Call Json).attempts ≠ [] ∧
      (retryingClient.call listing (unavailableOnce.withDeadline (some 70)) : Call Json).Returns ∧
      ∃ e, (retryingClient.call listing (unavailableOnce.withDeadline (some 70)) :
          Call Json).result = .error e ∧ e.isRetryable = true ∧
        ((retryingClient.call listing (unavailableOnce.withDeadline (some 70)) :
            Call Json).attempts.length = 3 ∨
          ∃ pause, 70 ≤ (retryingClient.call listing (unavailableOnce.withDeadline (some 70)) :
            Call Json).finishedAt + pause) := by
  have hout := run_listing_outcome (s := unavailableOnce.withDeadline (some 70)) rfl
    (by decide : 20 < retryingClient.timeout) (fun d hd => by cases hd; decide) (fun _ => rfl)
  obtain ⟨front, a, hattempts, -, hresult, -⟩ :=
    exists_last_of_run (α := Json) (c := retryingClient) prepare_listing hout
  have hne : (retryingClient.call listing (unavailableOnce.withDeadline (some 70)) :
      Call Json).attempts ≠ [] := by
    rw [hattempts]
    exact List.append_ne_nil_of_right_ne_nil _ (List.cons_ne_nil a [])
  obtain ⟨e, he⟩ := Outcome.exists_answer_eq_error (α := Json)
    (o := .received 503 (Reply.bodyText 503 [])) rfl
  have hretryable : e.isRetryable = true := Outcome.isRetryable_of_answer_eq_error he
  have hreturns : (retryingClient.call listing (unavailableOnce.withDeadline (some 70)) :
      Call Json).Returns := by
    intro reason hpanicked
    cases (hresult.trans he).symm.trans hpanicked
    cases hretryable
  refine ⟨hne, hreturns, e, hresult.trans he, hretryable, ?_⟩
  refine ((call_of_attempts_ne_nil hne hreturns).2.1 e (hresult.trans he) hretryable).imp_right ?_
  rintro ⟨d, pause, hd, -, hlate⟩
  cases hd
  exact ⟨pause, hlate⟩

end Client

end WebhookClient
