import Mathlib
import WebhookClient.Call.Run

/-!
# The course of a run

A run is its first attempt, which is cut off, or ends the run, or is followed by no instant to wait
for, or by a pause and the run of the attempts after it: `proceed_cases` and `proceed_induction`.
Without a deadline `proceed_of_deadline_eq_none` tells all of it: the attempts go on to the first
outcome that is not retryable, or to the end of the schedule.
-/

set_option autoImplicit false

namespace WebhookClient.Run

/-! ## The first attempt -/

/-- When an attempt that begins at `now` is over. -/
def Plan.stop (p : Plan) (retry now : Nat) : Nat := now + (p.settle retry).duration

/-- An attempt that comes to its outcome. -/
def Plan.attempt (p : Plan) (retry now : Nat) : Attempt :=
  ⟨p.sent retry, now, (p.settle retry).received, some (p.settle retry).outcome⟩

/-- The run of an attempt that is cut off. -/
def Plan.cut (p : Plan) (retry now : Nat) : Run :=
  let stop := max now (p.deadline.getD now)
  ⟨[⟨p.sent retry, now, (p.settle retry).received && now < stop, none⟩], [], .cutOff, stop⟩

/-- The run of an attempt that is the last. -/
def Plan.last (p : Plan) (retry now : Nat) : Run :=
  ⟨[p.attempt retry now], [], .settled (p.settle retry).outcome, p.stop retry now⟩

/-- The run of an attempt after which there is no instant to wait for. -/
def Plan.overflow (p : Plan) (retry now : Nat) : Run :=
  ⟨[p.attempt retry now], [], .overflow, p.stop retry now⟩

/-- A run with one more attempt and the retry after it in front. -/
def after (attempt : Attempt) (retry : Retry) (later : Run) : Run :=
  { later with
    attempts := attempt :: later.attempts
    retries := retry :: later.retries }

/-- No attempt follows: no pause remains, the outcome is not retryable, or the next pause lasts
too long. -/
def Plan.IsFinal (p : Plan) (pauses : List Nat) (retry now : Nat) : Prop :=
  ∀ pause ∈ pauses.head?, (p.settle retry).outcome.isRetryable = true →
    pausing p.deadline (p.stop retry now + pause) = .tooLong

section

variable {p : Plan} {pauses : List Nat} {retry now pause : Nat}

theorem proceed_of_isCutOff (h : isCutOff p.deadline now (p.settle retry) = true) :
    proceed p pauses retry now = p.cut retry now := by
  unfold proceed
  exact if_pos h

/-- After a retryable outcome the next pause decides how the run goes on. -/
theorem proceed_of_isRetryable (hcut : isCutOff p.deadline now (p.settle retry) = false)
    (hretryable : (p.settle retry).outcome.isRetryable = true) (pause : Nat) (rest : List Nat) :
    proceed p (pause :: rest) retry now =
      match pausing p.deadline (p.stop retry now + pause) with
      | .begun =>
        (proceed p rest (retry + 1) (p.stop retry now + pause)).after (p.attempt retry now)
          ⟨retry + 1, pause, (p.settle retry).outcome⟩
      | .tooLong => p.last retry now
      | .overflow => p.overflow retry now := by
  rw [proceed]
  exact (if_neg (Bool.eq_false_iff.1 hcut)).trans (if_pos hretryable)

theorem proceed_of_isFinal (hcut : isCutOff p.deadline now (p.settle retry) = false)
    (hfinal : p.IsFinal pauses retry now) : proceed p pauses retry now = p.last retry now := by
  match pauses with
  | [] =>
    rw [proceed]
    exact if_neg (Bool.eq_false_iff.1 hcut)
  | pause :: rest =>
    cases hr : (p.settle retry).outcome.isRetryable with
    | false =>
      rw [proceed]
      exact (if_neg (Bool.eq_false_iff.1 hcut)).trans (if_neg (Bool.eq_false_iff.1 hr))
    | true => rw [proceed_of_isRetryable hcut hr, hfinal pause rfl hr]

theorem proceed_of_overflow (hcut : isCutOff p.deadline now (p.settle retry) = false)
    (hretryable : (p.settle retry).outcome.isRetryable = true)
    (hpause : pausing p.deadline (p.stop retry now + pause) = .overflow) (rest : List Nat) :
    proceed p (pause :: rest) retry now = p.overflow retry now := by
  rw [proceed_of_isRetryable hcut hretryable, hpause]

theorem proceed_cons (hcut : isCutOff p.deadline now (p.settle retry) = false)
    (hretryable : (p.settle retry).outcome.isRetryable = true)
    (hpause : pausing p.deadline (p.stop retry now + pause) = .begun) (rest : List Nat) :
    proceed p (pause :: rest) retry now =
      (proceed p rest (retry + 1) (p.stop retry now + pause)).after (p.attempt retry now)
        ⟨retry + 1, pause, (p.settle retry).outcome⟩ := by
  rw [proceed_of_isRetryable hcut hretryable, hpause]

end

/-- The first attempt is cut off, is the last, is followed by no instant to wait for, or is followed
by a pause and the run of the attempts after it. -/
theorem proceed_cases (p : Plan) (pauses : List Nat) (retry now : Nat) :
    isCutOff p.deadline now (p.settle retry) = true ∧
        proceed p pauses retry now = p.cut retry now ∨
      isCutOff p.deadline now (p.settle retry) = false ∧
        (p.IsFinal pauses retry now ∧ proceed p pauses retry now = p.last retry now ∨
        ∃ pause rest, pauses = pause :: rest ∧ (p.settle retry).outcome.isRetryable = true ∧
          (pausing p.deadline (p.stop retry now + pause) = .overflow ∧
              proceed p pauses retry now = p.overflow retry now ∨
            pausing p.deadline (p.stop retry now + pause) = .begun ∧
              proceed p pauses retry now =
                (proceed p rest (retry + 1) (p.stop retry now + pause)).after
                  (p.attempt retry now) ⟨retry + 1, pause, (p.settle retry).outcome⟩)) := by
  cases hcut : isCutOff p.deadline now (p.settle retry) with
  | true => exact .inl ⟨rfl, proceed_of_isCutOff hcut⟩
  | false =>
    refine .inr ⟨rfl, ?_⟩
    by_cases hfinal : p.IsFinal pauses retry now
    · exact .inl ⟨hfinal, proceed_of_isFinal hcut hfinal⟩
    · -- There is a pause, after a retryable outcome, and it does not last to the deadline.
      simp only [Plan.IsFinal, not_forall] at hfinal
      obtain ⟨pause, hpause, hretryable, hshort⟩ := hfinal
      obtain ⟨rest, rfl⟩ : ∃ rest, pauses = pause :: rest :=
        ⟨_, (List.cons_head?_tail hpause).symm⟩
      refine .inr ⟨pause, rest, rfl, hretryable, ?_⟩
      cases hp : pausing p.deadline (p.stop retry now + pause) with
      | begun => exact .inr ⟨rfl, proceed_cons hcut hretryable hp rest⟩
      | tooLong => exact absurd hp hshort
      | overflow => exact .inl ⟨rfl, proceed_of_overflow hcut hretryable hp rest⟩

/-- What holds of a first attempt that is cut off, is the last or is followed by no instant to wait
for, and of a run with an attempt in front of one of which it holds, holds of all runs. -/
theorem proceed_induction {p : Plan} {motive : List Nat → Nat → Nat → Run → Prop}
    (cut : ∀ pauses retry now, isCutOff p.deadline now (p.settle retry) = true →
      motive pauses retry now (p.cut retry now))
    (last : ∀ pauses retry now, isCutOff p.deadline now (p.settle retry) = false →
      p.IsFinal pauses retry now → motive pauses retry now (p.last retry now))
    (overflow : ∀ pause rest retry now, isCutOff p.deadline now (p.settle retry) = false →
      (p.settle retry).outcome.isRetryable = true →
      pausing p.deadline (p.stop retry now + pause) = .overflow →
      motive (pause :: rest) retry now (p.overflow retry now))
    (again : ∀ pause rest retry now, isCutOff p.deadline now (p.settle retry) = false →
      (p.settle retry).outcome.isRetryable = true →
      pausing p.deadline (p.stop retry now + pause) = .begun →
      motive rest (retry + 1) (p.stop retry now + pause)
        (proceed p rest (retry + 1) (p.stop retry now + pause)) →
      motive (pause :: rest) retry now
        ((proceed p rest (retry + 1) (p.stop retry now + pause)).after (p.attempt retry now)
          ⟨retry + 1, pause, (p.settle retry).outcome⟩))
    (pauses : List Nat) (retry now : Nat) :
    motive pauses retry now (proceed p pauses retry now) := by
  induction pauses generalizing retry now with
  | nil =>
    obtain ⟨hcut, hrun⟩ | ⟨hcut, ⟨hfinal, hrun⟩ | ⟨pause, rest, hpauses, -⟩⟩ :=
      proceed_cases p [] retry now
    · rw [hrun]
      exact cut [] retry now hcut
    · rw [hrun]
      exact last [] retry now hcut hfinal
    · cases hpauses
  | cons pause rest ih =>
    obtain ⟨hcut, hrun⟩ | ⟨hcut, ⟨hfinal, hrun⟩ | ⟨_, _, hpauses, hretryable, hnext⟩⟩ :=
      proceed_cases p (pause :: rest) retry now
    · rw [hrun]
      exact cut _ retry now hcut
    · rw [hrun]
      exact last _ retry now hcut hfinal
    · cases hpauses
      obtain ⟨hpause, hrun⟩ | ⟨hpause, hrun⟩ := hnext
      · rw [hrun]
        exact overflow pause rest retry now hcut hretryable hpause
      · rw [hrun]
        exact again pause rest retry now hcut hretryable hpause (ih _ _)

/-! ## Any run -/

section

variable {p : Plan} {pauses : List Nat} {retry now : Nat}

/-- A run does not end before it begins. -/
theorem le_finishedAt (p : Plan) (pauses : List Nat) (retry now : Nat) :
    now ≤ (proceed p pauses retry now).finishedAt := by
  induction pauses, retry, now using proceed_induction (p := p) with
  | cut pauses retry now h => exact le_max_left _ _
  | last pauses retry now h hfinal => exact Nat.le_add_right _ _
  | overflow pause rest retry now h hretryable hpause => exact Nat.le_add_right _ _
  | again pause rest retry now h hretryable hpause ih =>
    exact (Nat.le_add_right _ _).trans ((Nat.le_add_right _ pause).trans ih)

/-- What is over by the deadline is not cut off, if it has begun before it. -/
theorem isCutOff_eq_false {deadline : Option Nat} {start : Nat} {settled : Settled}
    (h : ∀ d, deadline = some d → start + settled.duration ≤ d ∧ start < d) :
    isCutOff deadline start settled = false := by
  cases deadline with
  | none => rfl
  | some d =>
    obtain ⟨hstop, hstart⟩ := h d rfl
    simp [isCutOff, Nat.not_lt.2 hstop, Nat.not_le.2 hstart]

theorem outcome_eq_some_iff {r : Run} {o : Outcome} :
    r.outcome = some o ↔ r.ending = .settled o := by
  unfold outcome
  cases r.ending <;> simp

/-- A run makes an attempt at once. -/
theorem exists_attempts_eq_cons (p : Plan) (pauses : List Nat) (retry now : Nat) :
    ∃ a later, (proceed p pauses retry now).attempts = a :: later ∧ a.startedAt = now := by
  obtain ⟨-, hrun⟩ | ⟨-, ⟨-, hrun⟩ | ⟨pause, rest, -, -, ⟨-, hrun⟩ | ⟨-, hrun⟩⟩⟩ :=
    proceed_cases p pauses retry now
  · exact ⟨_, [], congrArg attempts hrun, rfl⟩
  · exact ⟨_, [], congrArg attempts hrun, rfl⟩
  · exact ⟨_, [], congrArg attempts hrun, rfl⟩
  · exact ⟨_, _, congrArg attempts hrun, rfl⟩

/-- A run that does not end in a panic ends with the outcome of its last attempt. -/
theorem outcome_eq_getLast? (h : (proceed p pauses retry now).ending ≠ .overflow) :
    (proceed p pauses retry now).outcome =
      (proceed p pauses retry now).attempts.getLast?.bind (·.outcome) := by
  induction pauses, retry, now using proceed_induction (p := p) with
  | cut pauses retry now hcut => rfl
  | last pauses retry now hcut hfinal => rfl
  | overflow pause rest retry now hcut hretryable hpause => exact absurd rfl h
  | again pause rest retry now hcut hretryable hpause ih =>
    -- The later run has an attempt, so the last attempt is its last one.
    obtain ⟨a, later, hattempts, -⟩ :=
      exists_attempts_eq_cons p rest (retry + 1) (p.stop retry now + pause)
    show (proceed p rest (retry + 1) (p.stop retry now + pause)).outcome =
      (p.attempt retry now ::
        (proceed p rest (retry + 1) (p.stop retry now + pause)).attempts).getLast?.bind _
    rw [ih h, hattempts, List.getLast?_cons_cons]

/-- Between two attempts there is the pause of the schedule. -/
theorem startedAt_succ (p : Plan) (pauses : List Nat) (retry now : Nat) {i : Nat}
    {a b : Attempt} (ha : (proceed p pauses retry now).attempts[i]? = some a)
    (hb : (proceed p pauses retry now).attempts[i + 1]? = some b) :
    ∃ pause, pauses[i]? = some pause ∧
      b.startedAt = a.startedAt + (p.settle (retry + i)).duration + pause := by
  induction pauses, retry, now using proceed_induction (p := p) generalizing i with
  | cut pauses retry now h => cases hb
  | last pauses retry now h hfinal => cases hb
  | overflow pause rest retry now h hretryable hpause => cases hb
  | again pause rest retry now h hretryable hpause ih =>
    cases i with
    | zero =>
      -- The second attempt is the first one of the later run, which begins after the pause.
      obtain ⟨b', later, hattempts, hstart⟩ :=
        exists_attempts_eq_cons p rest (retry + 1) (p.stop retry now + pause)
      have hb' : (proceed p rest (retry + 1) (p.stop retry now + pause)).attempts[0]? = some b :=
        hb
      rw [hattempts] at hb'
      cases ha
      cases hb'
      exact ⟨pause, rfl, hstart⟩
    | succ i =>
      obtain ⟨pause', hpause, hstart⟩ := ih ha hb
      refine ⟨pause', hpause, ?_⟩
      rw [hstart, Nat.add_assoc retry 1 i, Nat.add_comm 1 i]

end

/-! ## Without a deadline -/

section

variable {p : Plan} {pauses : List Nat} {retry now : Nat}

theorem isCutOff_none (start : Nat) (settled : Settled) : isCutOff none start settled = false := rfl

theorem pausing_none (stop : Nat) : pausing none stop = .begun := rfl

/-- When the attempts of a run that begins at `now` with the attempt `retry` begin, counted from
that one: each as long after the end of the one before as the schedule says. -/
def Plan.startOf (p : Plan) (pauses : List Nat) (retry now : Nat) : Nat → Nat
  | 0 => now
  | i + 1 => p.stop (retry + i) (p.startOf pauses retry now i) + pauses.getD i 0

theorem Plan.startOf_cons_succ (p : Plan) (pause : Nat) (rest : List Nat) (retry now i : Nat) :
    p.startOf (pause :: rest) retry now (i + 1) =
      p.startOf rest (retry + 1) (p.stop retry now + pause) i := by
  induction i with
  | zero => rfl
  | succ i ih =>
    have hretry : retry + (i + 1) = retry + 1 + i := by omega
    rw [Plan.startOf, ih, Plan.startOf, hretry]
    rfl

/-- The attempt that is the `i`th after the attempt `retry` ends a run without a deadline: its
outcome is not retryable, or no pause remains. -/
def Plan.Ends (p : Plan) (pauses : List Nat) (retry i : Nat) : Prop :=
  (p.settle (retry + i)).outcome.isRetryable = false ∨ i = pauses.length

/-- The run of the attempts up to the `k`th after the attempt `retry`. -/
def Plan.course (p : Plan) (pauses : List Nat) (retry now k : Nat) : Run where
  attempts := (List.range (k + 1)).map fun i =>
    p.attempt (retry + i) (p.startOf pauses retry now i)
  retries := (List.range k).map fun i =>
    ⟨retry + i + 1, pauses.getD i 0, (p.settle (retry + i)).outcome⟩
  ending := .settled (p.settle (retry + k)).outcome
  finishedAt := p.stop (retry + k) (p.startOf pauses retry now k)

theorem Plan.course_cons_succ (pause : Nat) (rest : List Nat) (k : Nat) :
    p.course (pause :: rest) retry now (k + 1) =
      (p.course rest (retry + 1) (p.stop retry now + pause) k).after (p.attempt retry now)
        ⟨retry + 1, pause, (p.settle retry).outcome⟩ := by
  have hretry (i : Nat) : retry + (i + 1) = retry + 1 + i := by omega
  have hattempt (i : Nat) : p.attempt (retry + (i + 1))
      (p.startOf (pause :: rest) retry now (i + 1)) =
        p.attempt (retry + 1 + i) (p.startOf rest (retry + 1) (p.stop retry now + pause) i) := by
    rw [Plan.startOf_cons_succ, hretry]
  have hattempts : (p.course (pause :: rest) retry now (k + 1)).attempts =
      p.attempt retry now ::
        (p.course rest (retry + 1) (p.stop retry now + pause) k).attempts := by
    show (List.range (k + 1 + 1)).map _ = _
    rw [List.range_succ_eq_map, List.map_cons, List.map_map]
    exact congrArg (p.attempt retry now :: ·) (List.map_congr_left fun i _ => hattempt i)
  have hretries : (p.course (pause :: rest) retry now (k + 1)).retries =
      ⟨retry + 1, pause, (p.settle retry).outcome⟩ ::
        (p.course rest (retry + 1) (p.stop retry now + pause) k).retries := by
    show (List.range (k + 1)).map _ = _
    rw [List.range_succ_eq_map, List.map_cons, List.map_map]
    refine congrArg (Retry.mk (retry + 1) pause _ :: ·) (List.map_congr_left fun i _ => ?_)
    show Retry.mk (retry + (i + 1) + 1) _ (p.settle (retry + (i + 1))).outcome = _
    rw [hretry]
    rfl
  have hending : (p.course (pause :: rest) retry now (k + 1)).ending =
      (p.course rest (retry + 1) (p.stop retry now + pause) k).ending := by
    show Ending.settled (p.settle (retry + (k + 1))).outcome = _
    rw [hretry]
    rfl
  have hfinish : (p.course (pause :: rest) retry now (k + 1)).finishedAt =
      (p.course rest (retry + 1) (p.stop retry now + pause) k).finishedAt := by
    show p.stop (retry + (k + 1)) (p.startOf (pause :: rest) retry now (k + 1)) = _
    rw [Plan.startOf_cons_succ, hretry]
    rfl
  -- The two runs agree in each of their four parts.
  calc p.course (pause :: rest) retry now (k + 1)
      = ⟨(p.course (pause :: rest) retry now (k + 1)).attempts,
          (p.course (pause :: rest) retry now (k + 1)).retries,
          (p.course (pause :: rest) retry now (k + 1)).ending,
          (p.course (pause :: rest) retry now (k + 1)).finishedAt⟩ := rfl
    _ = _ := by
      rw [hattempts, hretries, hending, hfinish]
      rfl

theorem Plan.isLeast_ends_cons {pause : Nat} {rest : List Nat} {k : Nat}
    (hretryable : (p.settle retry).outcome.isRetryable = true)
    (h : IsLeast {i | p.Ends rest (retry + 1) i} k) :
    IsLeast {i | p.Ends (pause :: rest) retry i} (k + 1) := by
  have hshift (i : Nat) : p.Ends (pause :: rest) retry (i + 1) ↔ p.Ends rest (retry + 1) i := by
    have hretry : retry + (i + 1) = retry + 1 + i := by omega
    rw [Plan.Ends, Plan.Ends, hretry, List.length_cons, Nat.add_right_cancel_iff]
  refine ⟨(hshift k).2 h.1, fun i hi => ?_⟩
  cases i with
  | zero =>
    obtain hi | hi := hi
    · rw [Nat.add_zero, hretryable] at hi
      cases hi
    · cases hi
  | succ i => exact Nat.succ_le_succ (h.2 ((hshift i).1 hi))

/-- A run without a deadline goes on to the first attempt that ends it. -/
theorem proceed_of_deadline_eq_none (hd : p.deadline = none) (pauses : List Nat)
    (retry now : Nat) :
    ∃ k, IsLeast {i | p.Ends pauses retry i} k ∧
      proceed p pauses retry now = p.course pauses retry now k := by
  induction pauses generalizing retry now with
  | nil =>
    have hcut : isCutOff p.deadline now (p.settle retry) = false := by
      rw [hd, isCutOff_none]
    refine ⟨0, ⟨.inr rfl, fun i _ => Nat.zero_le i⟩, ?_⟩
    exact proceed_of_isFinal hcut fun pause h => by cases h
  | cons pause rest ih =>
    have hcut : isCutOff p.deadline now (p.settle retry) = false := by
      rw [hd, isCutOff_none]
    -- The first attempt ends the run if its outcome is not retryable; else all is shifted by one.
    cases hr : (p.settle retry).outcome.isRetryable with
    | false =>
      refine ⟨0, ⟨.inl hr, fun i _ => Nat.zero_le i⟩, ?_⟩
      refine proceed_of_isFinal hcut fun pause' _ hretryable => ?_
      rw [hr] at hretryable
      cases hretryable
    | true =>
      have hpause : pausing p.deadline (p.stop retry now + pause) = .begun := by
        rw [hd, pausing_none]
      obtain ⟨k, hk, hrun⟩ := ih (retry + 1) (p.stop retry now + pause)
      refine ⟨k + 1, Plan.isLeast_ends_cons hr hk, ?_⟩
      rw [proceed_cons hcut hr hpause, hrun, Plan.course_cons_succ]

theorem Plan.length_attempts_course (p : Plan) (pauses : List Nat) (retry now k : Nat) :
    (p.course pauses retry now k).attempts.length = k + 1 := by
  simp [Plan.course]

/-- Without a deadline every attempt comes to its outcome. -/
theorem exists_eq_attempt (hd : p.deadline = none) {i : Nat} {a : Attempt}
    (ha : (proceed p pauses retry now).attempts[i]? = some a) :
    ∃ start, a = p.attempt (retry + i) start := by
  obtain ⟨k, -, hrun⟩ := proceed_of_deadline_eq_none hd pauses retry now
  rw [hrun, Plan.course, List.getElem?_map] at ha
  obtain ⟨j, hj, rfl⟩ := Option.map_eq_some_iff.1 ha
  obtain ⟨hlt, hij⟩ := List.getElem?_eq_some_iff.1 hj
  rw [List.getElem_range] at hij
  exact ⟨_, by rw [hij]⟩

/-- Without a deadline an attempt is followed by another one unless it ends the run. -/
theorem succ_lt_length_attempts_iff (hd : p.deadline = none) {i : Nat}
    (hi : i < (proceed p pauses retry now).attempts.length) :
    i + 1 < (proceed p pauses retry now).attempts.length ↔ ¬ p.Ends pauses retry i := by
  obtain ⟨k, hk, hrun⟩ := proceed_of_deadline_eq_none hd pauses retry now
  rw [hrun, Plan.length_attempts_course] at hi ⊢
  constructor
  · intro hlt hends
    have hle : k ≤ i := hk.2 hends
    omega
  · intro hgoes
    have hne : i ≠ k := by
      rintro rfl
      exact hgoes hk.1
    omega

/-- Without a deadline a run has the outcome of its last attempt. -/
theorem outcome_of_length_attempts (hd : p.deadline = none) {i : Nat}
    (hlength : (proceed p pauses retry now).attempts.length = i + 1) :
    (proceed p pauses retry now).outcome = some (p.settle (retry + i)).outcome := by
  obtain ⟨k, -, hrun⟩ := proceed_of_deadline_eq_none hd pauses retry now
  rw [hrun, Plan.length_attempts_course] at hlength
  have hk : k = i := by omega
  rw [hrun, hk]
  rfl

end

end WebhookClient.Run
