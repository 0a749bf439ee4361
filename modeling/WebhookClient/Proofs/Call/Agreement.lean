import Mathlib
import WebhookClient.Call.Basic
import WebhookClient.Proofs.Call.Run

/-!
# Two runs side by side

What a run comes to depends on what its attempts send by the URL only. So two runs with the same
replies and times, whose attempts send requests with the same URL, go the same way
(`Plan.Agrees.proceed`), and two calls of clients that differ in nothing but their headers leave
the same result and the same trace (`SameButHeaders.call_agrees`). How what they send is related is
left open: `R` is any relation that holds between the requests of each two attempts of the same
number.
-/

set_option autoImplicit false

namespace WebhookClient

/-- Two attempts that differ at most in what they send, and there by a relation. -/
structure Attempt.Agrees (R : Sent → Sent → Prop) (a b : Attempt) : Prop where
  sent : R a.sent b.sent
  startedAt : a.startedAt = b.startedAt
  received : a.received = b.received
  outcome : a.outcome = b.outcome

/-- Two calls of which each two attempts of the same number agree, and all else is the same: the
result, the span, the events and the time at which they end. -/
structure Call.Agrees {α : Type} (R : Sent → Sent → Prop) (k l : Call α) : Prop where
  attempts : List.Forall₂ (Attempt.Agrees R) k.attempts l.attempts
  result : k.result = l.result
  span : k.span = l.span
  events : k.events = l.events
  finishedAt : k.finishedAt = l.finishedAt

namespace Run

variable {R : Sent → Sent → Prop}

/-- Two runs of which each two attempts of the same number agree, and all else is the same. -/
structure Agrees (R : Sent → Sent → Prop) (r s : Run) : Prop where
  attempts : List.Forall₂ (Attempt.Agrees R) r.attempts s.attempts
  retries : r.retries = s.retries
  ending : r.ending = s.ending
  finishedAt : r.finishedAt = s.finishedAt

/-- Two plans that differ at most in what is sent, but not in its URL. -/
structure Plan.Agrees (R : Sent → Sent → Prop) (p q : Plan) : Prop where
  sent : ∀ retry, R (p.sent retry) (q.sent retry)
  url : ∀ retry, (p.sent retry).url = (q.sent retry).url
  reply : p.reply = q.reply
  timeout : p.timeout = q.timeout
  deadline : p.deadline = q.deadline

namespace Plan.Agrees

variable {p q : Plan} (h : p.Agrees R q)

include h

/-! ## One attempt -/

theorem settle (retry : Nat) : p.settle retry = q.settle retry := by
  rw [Plan.settle, Plan.settle, h.reply, h.timeout, h.url]

theorem stop (retry now : Nat) : p.stop retry now = q.stop retry now := by
  rw [Plan.stop, Plan.stop, h.settle]

theorem attempt (retry now : Nat) : (p.attempt retry now).Agrees R (q.attempt retry now) where
  sent := h.sent retry
  startedAt := rfl
  received := congrArg Settled.received (h.settle retry)
  outcome := congrArg (fun t : Settled => some t.outcome) (h.settle retry)

theorem cut (retry now : Nat) : (p.cut retry now).Agrees R (q.cut retry now) := by
  unfold Plan.cut
  rw [h.settle, h.deadline]
  exact ⟨.cons ⟨h.sent retry, rfl, rfl, rfl⟩ .nil, rfl, rfl, rfl⟩

theorem last (retry now : Nat) : (p.last retry now).Agrees R (q.last retry now) where
  attempts := .cons (h.attempt retry now) .nil
  retries := rfl
  ending := congrArg (fun t : Settled => Ending.settled t.outcome) (h.settle retry)
  finishedAt := h.stop retry now

theorem overflow (retry now : Nat) : (p.overflow retry now).Agrees R (q.overflow retry now) where
  attempts := .cons (h.attempt retry now) .nil
  retries := rfl
  ending := rfl
  finishedAt := h.stop retry now

theorem isFinal_iff (pauses : List Nat) (retry now : Nat) :
    p.IsFinal pauses retry now ↔ q.IsFinal pauses retry now := by
  unfold Plan.IsFinal
  rw [h.settle, h.deadline, h.stop]

/-! ## A whole run -/

/-- Runs of plans that agree agree. -/
theorem proceed (pauses : List Nat) (retry now : Nat) :
    (Run.proceed p pauses retry now).Agrees R (Run.proceed q pauses retry now) := by
  induction pauses, retry, now using proceed_induction (p := p) with
  | cut pauses retry now hcut =>
    rw [h.deadline, h.settle] at hcut
    rw [proceed_of_isCutOff hcut]
    exact h.cut retry now
  | last pauses retry now hcut hfinal =>
    rw [h.deadline, h.settle] at hcut
    rw [proceed_of_isFinal hcut ((h.isFinal_iff pauses retry now).1 hfinal)]
    exact h.last retry now
  | overflow pause rest retry now hcut hretryable hpause =>
    rw [h.deadline, h.settle] at hcut
    rw [h.deadline, h.stop] at hpause
    rw [h.settle] at hretryable
    rw [proceed_of_overflow hcut hretryable hpause]
    exact h.overflow retry now
  | again pause rest retry now hcut hretryable hpause ih =>
    rw [h.deadline, h.settle] at hcut
    rw [h.deadline, h.stop] at hpause
    rw [h.stop] at ih ⊢
    rw [h.settle] at hretryable ⊢
    rw [proceed_cons hcut hretryable hpause]
    exact ⟨.cons (h.attempt retry now) ih.attempts, congrArg (_ :: ·) ih.retries, ih.ending,
      ih.finishedAt⟩

end Plan.Agrees

end Run

namespace Client

variable {α : Type} [Json.Wire α] {R : Sent → Sent → Prop} {c d : Client}

/-- Two clients that differ in nothing but their headers. -/
structure SameButHeaders (c d : Client) : Prop where
  baseUrl : c.baseUrl = d.baseUrl
  carrier : c.carrier = d.carrier
  retrySchedule : c.retrySchedule = d.retrySchedule
  timeout : c.timeout = d.timeout
  debug : c.debug = d.debug

theorem SameButHeaders.run_agrees (h : c.SameButHeaders d) {p : Request.Prepared}
    {s : Circumstances}
    (hsent : ∀ retry, R (Sent.ofAttempt c p s.requestId retry)
      (Sent.ofAttempt d p s.requestId retry)) :
    (c.run p s).Agrees R (d.run p s) := by
  have hplan : (c.plan p s).Agrees R (d.plan p s) :=
    ⟨hsent, fun _ => rfl, rfl, h.timeout, rfl⟩
  unfold run
  rw [h.retrySchedule]
  exact hplan.proceed _ _ _

/-- The calls of a request through two clients that differ in nothing but their headers agree, if
what is sent at each attempt does. -/
theorem SameButHeaders.call_agrees (h : c.SameButHeaders d) {request : Request}
    {s : Circumstances}
    (hsent : ∀ p retry, R (Sent.ofAttempt c p s.requestId retry)
      (Sent.ofAttempt d p s.requestId retry)) :
    (c.call request s : Call α).Agrees R (d.call request s) := by
  unfold call
  rw [h.baseUrl]
  cases request.prepare d.baseUrl with
  | error e => exact ⟨.nil, rfl, rfl, rfl, rfl⟩
  | ok p =>
    have hrun := h.run_agrees (hsent p)
    -- The result, the span and the events are read off the outcome and the retries of the run.
    refine ⟨hrun.attempts, ?_, ?_, ?_, hrun.finishedAt⟩
    · show readRun s.startedAt (c.run p s) = readRun s.startedAt (d.run p s)
      rw [readRun, readRun, hrun.ending, hrun.finishedAt]
    · have hstatus : finalStatus? (c.run p s) = finalStatus? (d.run p s) := by
        rw [finalStatus?, finalStatus?, Run.outcome, Run.outcome, hrun.ending]
      dsimp only
      rw [hstatus]
    · dsimp only
      rw [h.debug, hrun.retries, Run.outcome, Run.outcome, hrun.ending]

end Client

end WebhookClient
