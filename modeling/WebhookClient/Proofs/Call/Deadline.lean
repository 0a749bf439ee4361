import Mathlib
import WebhookClient.Proofs.Call.Schedule

/-!
# Calls with a deadline

A deadline after the beginning of a call cuts its run short and changes nothing else: the attempts
are the first ones of the run without it, all of them begin before it, the last of them is cut off
only if it would last longer, and a run that is over before the deadline does not meet it. Main
statement: `call_of_deadline_eq_some`.
-/

set_option autoImplicit false

namespace WebhookClient

/-- An attempt as it is before its outcome. -/
def Attempt.begun (a : Attempt) : Attempt := { a with outcome := none }

namespace Run

/-- The plan with another deadline, or none. -/
def Plan.withDeadline (p : Plan) (deadline : Option Nat) : Plan := { p with deadline := deadline }

theorem lt_stop_of_isCutOff {d start : Nat} {settled : Settled} (hstart : start < d)
    (h : isCutOff (some d) start settled = true) : d < start + settled.duration := by
  by_contra hshort
  rw [isCutOff_eq_false] at h
  · cases h
  · rintro _ ⟨⟩
    exact ⟨Nat.le_of_not_lt hshort, hstart⟩

theorem pausing_some_eq_begun_iff {d stop : Nat} :
    pausing (some d) stop = .begun ↔ stop ≤ lastInstant ∧ stop < d := by
  unfold pausing
  dsimp only
  split_ifs <;> simp <;> omega

theorem pausing_some_eq_tooLong_iff {d stop : Nat} :
    pausing (some d) stop = .tooLong ↔ stop ≤ lastInstant ∧ d ≤ stop := by
  unfold pausing
  dsimp only
  split_ifs <;> simp <;> omega

theorem pausing_some_eq_overflow_iff {d stop : Nat} :
    pausing (some d) stop = .overflow ↔ lastInstant < stop := by
  unfold pausing
  dsimp only
  split_ifs <;> simp <;> omega

section

variable {p : Plan} {pauses : List Nat} {retry now d : Nat}

/-- Every attempt begins before the deadline. -/
theorem startedAt_lt (hd : p.deadline = some d) (hnow : now < d) :
    ∀ a ∈ (proceed p pauses retry now).attempts, a.startedAt < d := by
  induction pauses, retry, now using proceed_induction (p := p) with
  | again pause rest retry now h hretryable hpause ih =>
    rw [hd, pausing_some_eq_begun_iff] at hpause
    intro a ha
    obtain rfl | ha := List.mem_cons.1 ha
    · exact hnow
    · exact ih hpause.2 a ha
  | _ =>
    intro a ha
    obtain rfl := List.mem_singleton.1 ha
    exact hnow

/-- Only an attempt that lasts longer than to the deadline is cut off. -/
theorem lt_stop_of_ending_eq_cutOff (hd : p.deadline = some d) (hnow : now < d)
    (hend : (proceed p pauses retry now).ending = .cutOff) :
    ∃ (front : List Attempt) (a : Attempt),
      (proceed p pauses retry now).attempts = front ++ [a] ∧ a.outcome = none ∧
      d < a.startedAt + (p.settle (retry + front.length)).duration := by
  induction pauses, retry, now using proceed_induction (p := p) with
  | cut pauses retry now h =>
    rw [hd] at h
    exact ⟨[], _, rfl, rfl, lt_stop_of_isCutOff hnow h⟩
  | last pauses retry now h hfinal => cases hend
  | overflow pause rest retry now h hretryable hpause => cases hend
  | again pause rest retry now h hretryable hpause ih =>
    rw [hd, pausing_some_eq_begun_iff] at hpause
    obtain ⟨front, a, hattempts, ha, hlong⟩ := ih hpause.2 hend
    refine ⟨p.attempt retry now :: front, a, ?_, ha, ?_⟩
    · exact congrArg (p.attempt retry now :: ·) hattempts
    · rw [List.length_cons, Nat.add_comm front.length 1, ← Nat.add_assoc]
      exact hlong

/-- Where the next pause would last to the deadline the attempt is the last. Its outcome is that of
the run, unless it is retryable and the pause would last beyond the last instant. -/
theorem ending_of_le (hd : p.deadline = some d) {i pause : Nat} {a : Attempt} {o : Outcome}
    (ha : (proceed p pauses retry now).attempts[i]? = some a) (ho : a.outcome = some o)
    (hpause : pauses[i]? = some pause)
    (hlong : d ≤ a.startedAt + (p.settle (retry + i)).duration + pause) :
    (proceed p pauses retry now).attempts.length = i + 1 ∧
      (proceed p pauses retry now).ending =
        if o.isRetryable = true ∧
            lastInstant < a.startedAt + (p.settle (retry + i)).duration + pause then .overflow
        else .settled o := by
  induction pauses, retry, now using proceed_induction (p := p) generalizing i with
  | cut pauses retry now h =>
    -- An attempt that is cut off has no outcome.
    cases i with
    | zero =>
      cases ha
      cases ho
    | succ i => cases ha
  | last pauses retry now h hfinal =>
    cases i with
    | zero =>
      cases ha
      cases ho
      refine ⟨rfl, (if_neg ?_).symm⟩
      rintro ⟨hretryable, hover⟩
      have hfits := hfinal pause (List.head?_eq_getElem?.trans hpause) hretryable
      rw [hd, pausing_some_eq_tooLong_iff] at hfits
      exact absurd hover (Nat.not_lt.2 hfits.1)
    | succ i => cases ha
  | overflow pause' rest retry now h hretryable hover =>
    cases i with
    | zero =>
      cases ha
      cases ho
      cases hpause
      rw [hd, pausing_some_eq_overflow_iff] at hover
      exact ⟨rfl, (if_pos ⟨hretryable, hover⟩).symm⟩
    | succ i => cases ha
  | again pause' rest retry now h hretryable hbegun ih =>
    cases i with
    | zero =>
      -- The pause after this attempt was begun, so it did not last to the deadline.
      cases ha
      cases hpause
      rw [hd, pausing_some_eq_begun_iff] at hbegun
      exact absurd hlong (Nat.not_le.2 hbegun.2)
    | succ i =>
      have hretry : retry + (i + 1) = retry + 1 + i := by omega
      rw [hretry] at hlong ⊢
      obtain ⟨hlength, hend⟩ := ih ha hpause hlong
      exact ⟨congrArg (· + 1) hlength, hend⟩

/-- A run that ends in a panic does so after an attempt whose outcome is retryable, where the next
pause would last beyond the last instant. -/
theorem exists_of_ending_eq_overflow (hd : p.deadline = some d)
    (hend : (proceed p pauses retry now).ending = .overflow) :
    ∃ (front : List Attempt) (a : Attempt) (o : Outcome) (pause : Nat),
      (proceed p pauses retry now).attempts = front ++ [a] ∧ a.outcome = some o ∧
      o.isRetryable = true ∧ pauses[front.length]? = some pause ∧
      lastInstant < a.startedAt + (p.settle (retry + front.length)).duration + pause := by
  induction pauses, retry, now using proceed_induction (p := p) with
  | cut pauses retry now h => cases hend
  | last pauses retry now h hfinal => cases hend
  | overflow pause rest retry now h hretryable hpause =>
    rw [hd, pausing_some_eq_overflow_iff] at hpause
    exact ⟨[], _, _, pause, rfl, rfl, hretryable, rfl, hpause⟩
  | again pause rest retry now h hretryable hpause ih =>
    obtain ⟨front, a, o, pause', hattempts, ho, hretryable', hpause', hover⟩ := ih hend
    refine ⟨p.attempt retry now :: front, a, o, pause', ?_, ho, hretryable', hpause', ?_⟩
    · exact congrArg (p.attempt retry now :: ·) hattempts
    · rw [List.length_cons, Nat.add_comm front.length 1, ← Nat.add_assoc]
      exact hover

end

section

variable (p : Plan) {d : Nat}

/-- Without a deadline the first attempt comes to its outcome. -/
theorem exists_attempts_free_eq_cons (pauses : List Nat) (retry now : Nat) :
    ∃ later, (proceed (p.withDeadline none) pauses retry now).attempts =
      p.attempt retry now :: later := by
  obtain ⟨hcut, -⟩ | ⟨-, ⟨-, hrun⟩ | ⟨pause, rest, -, -, ⟨hpause, -⟩ | ⟨-, hrun⟩⟩⟩ :=
    proceed_cases (p.withDeadline none) pauses retry now
  · cases hcut
  · exact ⟨[], congrArg attempts hrun⟩
  · cases hpause
  · exact ⟨_, congrArg attempts hrun⟩

/-- The attempts before a deadline are the first ones of the run without it, but for the outcome
of the last one if that is cut off. -/
theorem attempts_beginning (pauses : List Nat) (retry : Nat) {now : Nat} (hnow : now < d) :
    ∃ (front : List Attempt) (a : Attempt) (rest : List Attempt),
      (proceed (p.withDeadline none) pauses retry now).attempts = front ++ a :: rest ∧
        ((proceed (p.withDeadline (some d)) pauses retry now).attempts = front ++ [a] ∨
          (proceed (p.withDeadline (some d)) pauses retry now).attempts =
            front ++ [a.begun]) := by
  induction pauses, retry, now using proceed_induction (p := p.withDeadline (some d)) with
  | cut pauses retry now h =>
    obtain ⟨later, hlater⟩ := exists_attempts_free_eq_cons p pauses retry now
    refine ⟨[], p.attempt retry now, later, hlater, .inr ?_⟩
    -- The attempt began before the deadline, so it counts as received if it was.
    have hbefore : decide (now < max now d) = true := decide_eq_true (lt_max_of_lt_right hnow)
    show [Attempt.mk _ _ ((p.settle retry).received && decide (now < max now d)) none] = _
    rw [hbefore, Bool.and_true]
    rfl
  | last pauses retry now h hfinal =>
    obtain ⟨later, hlater⟩ := exists_attempts_free_eq_cons p pauses retry now
    exact ⟨[], p.attempt retry now, later, hlater, .inl rfl⟩
  | overflow pause rest retry now h hretryable hpause =>
    obtain ⟨later, hlater⟩ := exists_attempts_free_eq_cons p (pause :: rest) retry now
    exact ⟨[], p.attempt retry now, later, hlater, .inl rfl⟩
  | again pause rest retry now h hretryable hpause ih =>
    obtain ⟨front, a, later, hfree, htimed⟩ := ih (pausing_some_eq_begun_iff.1 hpause).2
    -- What goes on with the deadline goes on without it.
    have hagain := proceed_cons (p := p.withDeadline none) (isCutOff_none now (p.settle retry))
      hretryable (pausing_none (p.stop retry now + pause)) rest
    refine ⟨p.attempt retry now :: front, a, later, ?_, ?_⟩
    · rw [hagain]
      exact congrArg (p.attempt retry now :: ·) hfree
    · exact htimed.imp (congrArg (p.attempt retry now :: ·)) (congrArg (p.attempt retry now :: ·))

/-- A run that is over before a deadline does not meet it. -/
theorem proceed_eq_of_finishedAt_lt (hlast : d ≤ lastInstant) (pauses : List Nat)
    (retry now : Nat)
    (hfinish : (proceed (p.withDeadline none) pauses retry now).finishedAt < d) :
    proceed (p.withDeadline (some d)) pauses retry now =
      proceed (p.withDeadline none) pauses retry now := by
  have hcut : ∀ retry now, p.stop retry now < d →
      isCutOff (some d) now (p.settle retry) = false := by
    rintro retry now hstop
    refine isCutOff_eq_false fun _ hd => ?_
    cases hd
    exact ⟨hstop.le, (Nat.le_add_right _ _).trans_lt hstop⟩
  induction pauses, retry, now using proceed_induction (p := p.withDeadline none) with
  | cut pauses retry now h => cases h
  | last pauses retry now h hfinal =>
    refine proceed_of_isFinal (hcut retry now hfinish) fun pause hpause hretryable => ?_
    cases hfinal pause hpause hretryable
  | overflow pause rest retry now h hretryable hpause => cases hpause
  | again pause rest retry now h hretryable hpause ih =>
    -- The later run ends before the deadline, so it begins before it.
    have hlater := le_finishedAt (p.withDeadline none) rest (retry + 1) (p.stop retry now + pause)
    have hnext : p.stop retry now + pause < d := hlater.trans_lt hfinish
    have hstop : p.stop retry now < d := (Nat.le_add_right _ _).trans_lt hnext
    have hbegun : pausing (some d) (p.stop retry now + pause) = .begun :=
      pausing_some_eq_begun_iff.2 ⟨by omega, hnext⟩
    have hagain := proceed_cons (p := p.withDeadline (some d)) (hcut retry now hstop) hretryable
      hbegun rest
    rw [hagain]
    exact congrArg (after _ _) (ih hfinish)

end

end Run

/-! ## Calls -/

/-- The failures that outcomes amount to: of transport, of the service, and of bodies of the wrong
form. -/
theorem Outcome.eq_of_answer_eq_error {α : Type} [Json.Wire α] {o : Outcome} {e : Failure}
    (h : (o.answer : Except Failure α) = .error e) :
    (∃ t, e = .transport t) ∨ (∃ r, e = .refused r) ∨
      ∃ j status body, e = .undecodable j status body := by
  cases o with
  | failed t =>
    cases h
    exact .inl ⟨t, rfl⟩
  | received status body =>
    change readResponse status body = .error e at h
    unfold readResponse at h
    split_ifs at h
    · obtain ⟨j, -, rfl⟩ := mapError_eq_error_iff.1 h
      exact .inr (.inr ⟨j, status, body, rfl⟩)
    · cases h
      exact .inr (.inl ⟨_, rfl⟩)

section

variable {α : Type} [Json.Wire α] {r : Run} {start : Nat}

/-- Only a run that is cut off is answered by its deadline. -/
theorem ending_of_readRun_eq_deadlineExceeded {ms : Nat}
    (h : readRun start r = (.error (.deadlineExceeded ms) : Except Failure α)) :
    r.ending = .cutOff := by
  cases hend : r.ending with
  | settled o =>
    rw [readRun_of_outcome (Run.outcome_eq_some_iff.2 hend)] at h
    obtain ⟨t, ⟨⟩⟩ | ⟨f, ⟨⟩⟩ | ⟨j, status, body, ⟨⟩⟩ := Outcome.eq_of_answer_eq_error h
  | cutOff => rfl
  | overflow =>
    rw [readRun, hend] at h
    cases h

/-- Only a run that has no instant to wait for ends in a panic. -/
theorem ending_of_readRun_eq_panicked {reason : String}
    (h : readRun start r = (.error (.panicked reason) : Except Failure α)) :
    r.ending = .overflow := by
  cases hend : r.ending with
  | settled o =>
    rw [readRun_of_outcome (Run.outcome_eq_some_iff.2 hend)] at h
    obtain ⟨t, ⟨⟩⟩ | ⟨f, ⟨⟩⟩ | ⟨j, status, body, ⟨⟩⟩ := Outcome.eq_of_answer_eq_error h
  | cutOff =>
    rw [readRun, hend] at h
    cases h
  | overflow => rfl

end

/-- The circumstances with another deadline, or none. -/
def Circumstances.withDeadline (s : Circumstances) (deadline : Option Nat) : Circumstances :=
  { s with deadline := deadline }

namespace Client

variable {α : Type} [Json.Wire α] {c : Client} {request : Request} {p : Request.Prepared}
  {s : Circumstances}

/-- A call with a deadline against the same call without one. Its attempts are the first ones of
that, and begin before the deadline; the last may be cut off, and only then, and only where it would
last longer, is the answer that the deadline has passed. Where the next pause would last to the
deadline an attempt is the last and its outcome is the answer, unless the outcome is retryable and
the pause would last beyond the last instant: there the call ends in a panic, and nowhere else. A
call that is over before the deadline does not meet it. -/
theorem call_of_deadline_eq_some {d : Nat} (hp : request.prepare c.baseUrl = .ok p)
    (hd : s.startedAt < d) (hlast : d ≤ Run.lastInstant) :
    (∃ (front : List Attempt) (a : Attempt) (rest : List Attempt),
      (c.call request (s.withDeadline none) : Call α).attempts = front ++ a :: rest ∧
        ((c.call request (s.withDeadline (some d)) : Call α).attempts = front ++ [a] ∨
          (c.call request (s.withDeadline (some d)) : Call α).attempts = front ++ [a.begun])) ∧
    (∀ a ∈ (c.call request (s.withDeadline (some d)) : Call α).attempts, a.startedAt < d) ∧
    (∀ ms, (c.call request (s.withDeadline (some d)) : Call α).result =
        .error (.deadlineExceeded ms) →
      ∃ (front : List Attempt) (a : Attempt),
        (c.call request (s.withDeadline (some d)) : Call α).attempts = front ++ [a] ∧
        a.outcome = none ∧ a.startedAt < d ∧
        d < a.startedAt + (c.settled p s front.length).duration) ∧
    (∀ (i : Nat) (a : Attempt) (o : Outcome) (pause : Nat),
      (c.call request (s.withDeadline (some d)) : Call α).attempts[i]? = some a →
      a.outcome = some o → c.retrySchedule[i]? = some pause →
      d ≤ a.startedAt + (c.settled p s i).duration + pause →
        (c.call request (s.withDeadline (some d)) : Call α).attempts.length = i + 1 ∧
        (o.isRetryable = false ∨
            a.startedAt + (c.settled p s i).duration + pause ≤ Run.lastInstant →
          (c.call request (s.withDeadline (some d)) : Call α).result = o.answer) ∧
        (o.isRetryable = true →
            Run.lastInstant < a.startedAt + (c.settled p s i).duration + pause →
          (c.call request (s.withDeadline (some d)) : Call α).result =
            .error (.panicked overflowText))) ∧
    (∀ reason, (c.call request (s.withDeadline (some d)) : Call α).result =
        .error (.panicked reason) →
      ∃ (front : List Attempt) (a : Attempt) (o : Outcome) (pause : Nat),
        (c.call request (s.withDeadline (some d)) : Call α).attempts = front ++ [a] ∧
        a.outcome = some o ∧ o.isRetryable = true ∧
        c.retrySchedule[front.length]? = some pause ∧
        Run.lastInstant < a.startedAt + (c.settled p s front.length).duration + pause) ∧
    ((c.call request (s.withDeadline none) : Call α).finishedAt < d →
      (c.call request (s.withDeadline (some d)) : Call α).result =
          (c.call request (s.withDeadline none) : Call α).result ∧
        (c.call request (s.withDeadline (some d)) : Call α).attempts =
          (c.call request (s.withDeadline none) : Call α).attempts) := by
  obtain ⟨htimed, htimedResult, -⟩ :=
    call_of_prepare_eq_ok (α := α) (s := s.withDeadline (some d)) hp
  obtain ⟨hfree, hfreeResult, hfreeFinish⟩ :=
    call_of_prepare_eq_ok (α := α) (s := s.withDeadline none) hp
  have htimedRun : c.run p (s.withDeadline (some d)) =
    Run.proceed ((c.plan p s).withDeadline (some d)) c.retrySchedule 0 s.startedAt := rfl
  have hfreeRun : c.run p (s.withDeadline none) =
    Run.proceed ((c.plan p s).withDeadline none) c.retrySchedule 0 s.startedAt := rfl
  rw [htimed, htimedResult, hfree, hfreeResult, hfreeFinish, htimedRun, hfreeRun]
  have hdeadline : ((c.plan p s).withDeadline (some d)).deadline = some d := rfl
  have hbefore : ∀ a ∈ (Run.proceed ((c.plan p s).withDeadline (some d)) c.retrySchedule 0
      s.startedAt).attempts, a.startedAt < d := Run.startedAt_lt hdeadline hd
  refine ⟨Run.attempts_beginning _ _ _ hd, hbefore, ?_, ?_, ?_, ?_⟩
  · intro ms hms
    obtain ⟨front, a, hattempts, ha, hlong⟩ := Run.lt_stop_of_ending_eq_cutOff hdeadline hd
      (ending_of_readRun_eq_deadlineExceeded hms)
    rw [Nat.zero_add] at hlong
    exact ⟨front, a, hattempts, ha, hbefore a (by rw [hattempts]; simp), hlong⟩
  · intro i a o pause ha ho hpause hlong
    rw [← Nat.zero_add i] at hlong
    obtain ⟨hlength, hend⟩ := Run.ending_of_le hdeadline ha ho hpause hlong
    rw [Nat.zero_add] at hend
    refine ⟨hlength, fun hreturns => ?_, fun hretryable hover => ?_⟩
    · refine readRun_of_outcome (Run.outcome_eq_some_iff.2 (hend.trans (if_neg ?_))) _
      rintro ⟨hretryable, hover⟩
      obtain hno | hfits := hreturns
      · rw [hno] at hretryable
        cases hretryable
      · exact absurd hover (Nat.not_lt.2 hfits)
    · rw [readRun, hend, if_pos ⟨hretryable, hover⟩]
  · intro reason hreason
    obtain ⟨front, a, o, pause, hattempts, ho, hretryable, hpause, hover⟩ :=
      Run.exists_of_ending_eq_overflow hdeadline (ending_of_readRun_eq_panicked hreason)
    rw [Nat.zero_add] at hover
    exact ⟨front, a, o, pause, hattempts, ho, hretryable, hpause, hover⟩
  · intro hfinish
    rw [Run.proceed_eq_of_finishedAt_lt _ hlast _ _ _ hfinish]
    exact ⟨rfl, rfl⟩

/-- A deadline in the pause after the first attempt: that attempt is the only one, and what comes
of it is the answer. -/
theorem call_listing_of_deadline :
    ∃ p a o, listing.prepare retryingClient.baseUrl = .ok p ∧ unavailableOnce.startedAt < 70 ∧
      70 ≤ Run.lastInstant ∧
      (retryingClient.call listing (unavailableOnce.withDeadline (some 70)) :
        Call Json).attempts = [a] ∧
      a.startedAt < 70 ∧ a.outcome = some o ∧ o.isRetryable = true ∧
      (retryingClient.call listing (unavailableOnce.withDeadline (some 70)) :
        Call Json).result = o.answer := by
  have hp : listing.prepare retryingClient.baseUrl = .ok ⟨.get, listingUrl, .empty, none⟩ :=
    prepare_listing
  have htime : 20 < retryingClient.timeout := by decide
  have hsettled := settle_listing (c := retryingClient) (s := unavailableOnce) rfl htime
  have hrun := run_listing (s := unavailableOnce.withDeadline (some 70)) rfl htime
    (fun d hd => by cases hd; decide) fun _ => rfl
  have hattempts := (call_of_prepare_eq_ok (α := Json) hp).1.trans (congrArg Run.attempts hrun)
  obtain ⟨-, hbefore, -, hpause, -⟩ :=
    call_of_deadline_eq_some (α := Json) (s := unavailableOnce) (d := 70) hp (by decide) (by decide)
  have hmem : (retryingClient.plan ⟨.get, listingUrl, .empty, none⟩
      (unavailableOnce.withDeadline (some 70))).attempt 0 0 ∈
        (retryingClient.call listing (unavailableOnce.withDeadline (some 70)) :
          Call Json).attempts := by
    rw [hattempts]
    exact List.mem_singleton_self _
  have hlong : 70 ≤ 0 + ((retryingClient.plan ⟨.get, listingUrl, .empty, none⟩
      unavailableOnce).settle 0).duration + 100 := by omega
  obtain ⟨-, hanswer, -⟩ := hpause 0 _ _ 100 (congrArg (·[0]?) hattempts) rfl rfl hlong
  refine ⟨_, _, _, hp, by decide, by decide, hattempts, hbefore _ hmem, rfl, ?_,
    hanswer (.inr ?_)⟩
  · show ((retryingClient.plan ⟨.get, listingUrl, .empty, none⟩
      unavailableOnce).settle 0).outcome.isRetryable = true
    rw [hsettled]
    rfl
  · show 0 + ((retryingClient.plan ⟨.get, listingUrl, .empty, none⟩
      unavailableOnce).settle 0).duration + 100 ≤ Run.lastInstant
    rw [hsettled]
    decide

/-- The longest pause: its seconds are a number of 64 bits. -/
def longestPause : Nat := 2 ^ 64 * 1000 - 1

/-- Settings with the longest pause. -/
def patientSettings : Settings :=
  { Settings.ofToken "testsk" with retrySchedule := [longestPause] }

/-- The client of `patientSettings`. -/
def patientClient : Client :=
  { testClient with
    retrySchedule := [longestPause]
    schedule_length := by decide }

theorem build_patientSettings : build .plainNames patientSettings = .ok patientClient := rfl

/-- Where the next pause would last to the deadline the outcome of the last attempt need not be the
answer: no instant is as late as the end of the pause. -/
theorem not_forall_result_eq_answer :
    ¬ ∀ (settings : Settings) (c : Client) (request : Request) (p : Request.Prepared)
      (s : Circumstances) (d i : Nat) (a : Attempt) (o : Outcome) (pause : Nat),
      build .plainNames settings = .ok c → request.prepare c.baseUrl = .ok p → s.startedAt < d →
      d ≤ Run.lastInstant →
      (c.call request (s.withDeadline (some d)) : Call Json).attempts[i]? = some a →
      a.outcome = some o → c.retrySchedule[i]? = some pause →
      d ≤ a.startedAt + (c.settled p s i).duration + pause →
        (c.call request (s.withDeadline (some d)) : Call Json).result = o.answer := by
  intro hall
  have hp : listing.prepare patientClient.baseUrl = .ok ⟨.get, listingUrl, .empty, none⟩ :=
    prepare_listing
  have htime : 20 < patientClient.timeout := by decide
  have hsettled := settle_listing (c := patientClient)
    (s := unavailableOnce.withDeadline (some 1000)) rfl htime
  have hrun : patientClient.run ⟨.get, listingUrl, .empty, none⟩
      (unavailableOnce.withDeadline (some 1000)) =
        (patientClient.plan ⟨.get, listingUrl, .empty, none⟩
          (unavailableOnce.withDeadline (some 1000))).overflow 0 0 := by
    refine Run.proceed_of_overflow ?_ ?_ (Run.pausing_some_eq_overflow_iff.2 ?_) []
    · rw [hsettled]
      exact Run.isCutOff_eq_false fun d hd => by cases hd; decide
    · rw [hsettled]
      rfl
    · rw [Run.Plan.stop, hsettled]
      decide
  obtain ⟨hattempts, hresult, -⟩ := call_of_prepare_eq_ok (α := Json)
    (s := unavailableOnce.withDeadline (some 1000)) hp
  rw [hrun] at hattempts hresult
  have hlong : 1000 ≤ 0 + ((patientClient.plan ⟨.get, listingUrl, .empty, none⟩
      unavailableOnce).settle 0).duration + longestPause := by
    rw [longestPause]
    omega
  have hanswer := hall patientSettings patientClient listing _ unavailableOnce 1000 0 _ _ _
    build_patientSettings hp (by decide) (by decide) (congrArg (·[0]?) hattempts) rfl rfl hlong
  -- No outcome amounts to a panic.
  obtain ⟨t, ⟨⟩⟩ | ⟨f, ⟨⟩⟩ | ⟨j, status, body, ⟨⟩⟩ :=
    Outcome.eq_of_answer_eq_error (hanswer.symm.trans hresult)

end Client

end WebhookClient
