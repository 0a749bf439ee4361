import Mathlib
import WebhookClient.Proofs.Call.Answer
import WebhookClient.Proofs.Call.OwnHeaders

/-!
# What a call leaves in its trace

The events of a call tell its run. Before each attempt but the first there is a warning with the
number of the retry, the pause and what came of the attempt before. Where bodies are traced, that of
the request comes before the warnings, and the response comes after them if the run ends with one.
Nothing else depends on whether they are; where they are not, calls that differ in nothing but
bodies leave the same events. Main statement: `call_events`.
-/

set_option autoImplicit false

namespace WebhookClient

/-! ## Replies that differ in their bodies -/

/-- Two replies that differ in nothing but the bodies of their responses. -/
inductive Reply.SameButBody : Reply → Reply → Prop where
  | response (after status : Nat) (body body' : List UInt8) :
      SameButBody (.response after status body) (.response after status body')
  | refl (reply : Reply) : SameButBody reply reply

/-- What comes of an attempt, but for the body of a response: the same in a word, as soon, and as
good a reason for another attempt. -/
structure Settled.SameButBody (a b : Settled) : Prop where
  duration : a.duration = b.duration
  text : a.outcome.text = b.outcome.text
  isRetryable : a.outcome.isRetryable = b.outcome.isRetryable
  isImmediate : a.outcome.isImmediate = b.outcome.isImmediate

theorem Reply.SameButBody.settle {r r' : Reply} (h : r.SameButBody r') (timeout : Nat)
    (url : Url) : (r.settle timeout url).SameButBody (r'.settle timeout url) := by
  cases h with
  | refl => exact ⟨rfl, rfl, rfl, rfl⟩
  | response after status body body' =>
    by_cases hs : url.withoutUser.isSendable = true
    · by_cases hafter : after < timeout
      · rw [settle_response hs hafter, settle_response hs hafter]
        exact ⟨rfl, rfl, rfl, rfl⟩
      · -- Neither response comes in time.
        have hlate (bytes : List UInt8) : (Reply.response after status bytes).settle timeout url =
            ⟨timeout, .failed (.timeout timeout), true⟩ := by
          unfold Reply.settle
          dsimp only
          rw [hs]
          exact if_neg hafter
        rw [hlate, hlate]
        exact ⟨rfl, rfl, rfl, rfl⟩
    · -- Nothing is sent for either.
      have hunsent (bytes : List UInt8) : (Reply.response after status bytes).settle timeout url =
          ⟨0, .failed (.unsendable url.withoutUser.toText), false⟩ := by
        unfold Reply.settle
        dsimp only
        rw [Bool.not_eq_true] at hs
        rw [hs]
        rfl
      rw [hunsent, hunsent]
      exact ⟨rfl, rfl, rfl, rfl⟩

/-! ## The retries of a run -/

namespace Run

variable {p q : Plan} {pauses : List Nat} {retry now : Nat}

/-- A run makes one attempt, and one more for each retry. -/
theorem length_retries_succ (p : Plan) (pauses : List Nat) (retry now : Nat) :
    (proceed p pauses retry now).retries.length + 1 =
      (proceed p pauses retry now).attempts.length := by
  induction pauses, retry, now using proceed_induction (p := p) with
  | again pause rest retry now hcut hretryable hpause ih => exact congrArg (· + 1) ih
  | _ => rfl

/-- A retry tells the outcome of the attempt before it and the pause after that; the next attempt
begins when the pause is over, and before the deadline. -/
theorem getElem?_retries {i : Nat} {r : Retry}
    (h : (proceed p pauses retry now).retries[i]? = some r) :
    r.number = retry + i + 1 ∧ pauses[i]? = some r.pause ∧
      ∃ a b, (proceed p pauses retry now).attempts[i]? = some a ∧ a.outcome = some r.outcome ∧
        (proceed p pauses retry now).attempts[i + 1]? = some b ∧
        b.startedAt = a.startedAt + (p.settle (retry + i)).duration + r.pause ∧
        pausing p.deadline b.startedAt = .begun := by
  induction pauses, retry, now using proceed_induction (p := p) generalizing i with
  | again pause rest retry now hcut hretryable hpause ih =>
    cases i with
    | zero =>
      cases h
      -- The next attempt is the first one of the later run.
      obtain ⟨b, later, hattempts, hstart⟩ :=
        exists_attempts_eq_cons p rest (retry + 1) (p.stop retry now + pause)
      refine ⟨rfl, rfl, p.attempt retry now, b, rfl, rfl, ?_, hstart, ?_⟩
      · show (proceed p rest (retry + 1) (p.stop retry now + pause)).attempts[0]? = some b
        rw [hattempts]
        rfl
      · rw [hstart]
        exact hpause
    | succ i =>
      have hretry : retry + (i + 1) = retry + 1 + i := by omega
      rw [hretry]
      exact ih h
  | _ => cases h

/-- Two plans whose attempts come to the same but for the bodies of responses. -/
structure Plan.SameButBodies (p q : Plan) : Prop where
  settle : ∀ retry, (p.settle retry).SameButBody (q.settle retry)
  deadline : p.deadline = q.deadline

theorem Plan.SameButBodies.isCutOff (h : p.SameButBodies q) (retry now : Nat) :
    isCutOff p.deadline now (p.settle retry) = isCutOff q.deadline now (q.settle retry) := by
  unfold Run.isCutOff
  rw [h.deadline, (h.settle retry).duration, (h.settle retry).isImmediate]

/-- Bodies do not show in the retries of a run. -/
theorem Plan.SameButBodies.map_ofRetry (h : p.SameButBodies q) (pauses : List Nat)
    (retry now : Nat) :
    (proceed p pauses retry now).retries.map Event.ofRetry =
      (proceed q pauses retry now).retries.map Event.ofRetry := by
  have hstop (retry now : Nat) : p.stop retry now = q.stop retry now :=
    congrArg (now + ·) (h.settle retry).duration
  -- The first run decides the case; what it looks at is the same in the second one.
  induction pauses, retry, now using proceed_induction (p := p) with
  | cut pauses retry now hcut =>
    rw [h.isCutOff] at hcut
    rw [proceed_of_isCutOff hcut]
    rfl
  | last pauses retry now hcut hfinal =>
    rw [h.isCutOff] at hcut
    have hfinal' : q.IsFinal pauses retry now := by
      intro pause hpause hretryable
      rw [← (h.settle retry).isRetryable] at hretryable
      rw [← h.deadline, ← hstop]
      exact hfinal pause hpause hretryable
    rw [proceed_of_isFinal hcut hfinal']
    rfl
  | overflow pause rest retry now hcut hretryable hpause =>
    rw [h.isCutOff] at hcut
    rw [h.deadline, hstop] at hpause
    rw [(h.settle retry).isRetryable] at hretryable
    rw [proceed_of_overflow hcut hretryable hpause]
    rfl
  | again pause rest retry now hcut hretryable hpause ih =>
    rw [h.isCutOff] at hcut
    rw [h.deadline, hstop] at hpause
    rw [hstop] at ih ⊢
    rw [(h.settle retry).isRetryable] at hretryable
    rw [proceed_cons hcut hretryable hpause]
    have hfirst : Event.ofRetry ⟨retry + 1, pause, (p.settle retry).outcome⟩ =
        Event.ofRetry ⟨retry + 1, pause, (q.settle retry).outcome⟩ :=
      congrArg (Event.retrying (retry + 1) pause) (h.settle retry).text
    exact congrArg₂ List.cons hfirst ih

end Run

/-! ## Events -/

/-- The warnings of a call. -/
def Call.warnings {α : Type} (k : Call α) : List Event := k.events.filter (·.level = .warning)

/-- Two calls that come to the same, and whose events differ in nothing but those of bodies. -/
structure Call.SameButBodies {α : Type} (k l : Call α) : Prop where
  attempts : k.attempts = l.attempts
  result : k.result = l.result
  span : k.span = l.span
  warnings : k.warnings = l.warnings
  finishedAt : k.finishedAt = l.finishedAt

/-- The response of an outcome, if it is one. -/
def Outcome.response? : Outcome → Option (Nat × String)
  | .received status body => some (status, body)
  | .failed _ => none

/-- Two calls under circumstances that differ in nothing but the bodies of responses and the number
of the call. -/
structure Circumstances.SameButBodies (s t : Circumstances) : Prop where
  reply : ∀ i, (s.reply i).SameButBody (t.reply i)
  startedAt : s.startedAt = t.startedAt
  deadline : s.deadline = t.deadline

namespace Client

variable {α : Type} [Json.Wire α] {c : Client} {request : Request} {p : Request.Prepared}
  {s : Circumstances}

/-- The client that traces bodies or does not. -/
def withDebug (c : Client) (debug : Bool) : Client := { c with debug := debug }

theorem events_call (hp : request.prepare c.baseUrl = .ok p) :
    (c.call request s : Call α).events =
      Event.before c.debug p.body ++ (c.run p s).retries.map .ofRetry ++
        Event.after c.debug (c.run p s).outcome := by
  unfold call
  rw [hp]

/-- The warnings are those of the retries. -/
theorem warnings_call (hp : request.prepare c.baseUrl = .ok p) :
    (c.call request s : Call α).warnings = (c.run p s).retries.map .ofRetry := by
  have hbefore : (Event.before c.debug p.body).filter (·.level = .warning) = [] := by
    unfold Event.before
    cases c.debug <;> cases p.body <;> rfl
  have hafter (o : Option Outcome) : (Event.after c.debug o).filter (·.level = .warning) = [] := by
    unfold Event.after
    cases c.debug <;> split <;> rfl
  have hretries : ((c.run p s).retries.map Event.ofRetry).filter (·.level = .warning) =
      (c.run p s).retries.map .ofRetry :=
    List.filter_eq_self.2 (List.forall_mem_map.2 fun r _ => decide_eq_true rfl)
  rw [Call.warnings, events_call hp, List.filter_append, List.filter_append, hbefore, hafter,
    hretries, List.nil_append, List.append_nil]

/-- A warning of a call is about two attempts: it stands between them. -/
theorem getElem?_warnings (hp : request.prepare c.baseUrl = .ok p) {i : Nat} {e : Event}
    (h : (c.call request s : Call α).warnings[i]? = some e) :
    ∃ pause a o b, e = .retrying (i + 1) pause o.text ∧ c.retrySchedule[i]? = some pause ∧
      (c.call request s : Call α).attempts[i]? = some a ∧ a.outcome = some o ∧
      (c.call request s : Call α).attempts[i + 1]? = some b ∧
      b.startedAt = a.startedAt + (c.settled p s i).duration + pause ∧
      ∀ d, s.deadline = some d → b.startedAt < d := by
  rw [warnings_call hp, List.getElem?_map, Option.map_eq_some_iff] at h
  obtain ⟨r, hr, rfl⟩ := h
  obtain ⟨hnumber, hpause, a, b, ha, ho, hb, hstart, hbegun⟩ := Run.getElem?_retries hr
  rw [Nat.zero_add] at hnumber hstart
  rw [(call_of_prepare_eq_ok hp).1]
  refine ⟨r.pause, a, r.outcome, b, ?_, hpause, ha, ho, hb, hstart, fun d hd => ?_⟩
  · rw [Event.ofRetry, hnumber]
  · have hdeadline : (c.plan p s).deadline = some d := hd
    rw [hdeadline] at hbegun
    exact (Run.pausing_some_eq_begun_iff.1 hbegun).2

/-- Where bodies are not traced they do not show in the events. -/
theorem events_congr_of_debug_eq_false (hdebug : c.debug = false)
    (hp : request.prepare c.baseUrl = .ok p) {request' : Request} {p' : Request.Prepared}
    {t : Circumstances} (hp' : request'.prepare c.baseUrl = .ok p') (hurl : p.url = p'.url)
    (hsame : s.SameButBodies t) :
    (c.call request s : Call α).events = (c.call request' t : Call α).events := by
  have hplan : (c.plan p s).SameButBodies (c.plan p' t) := by
    refine ⟨fun retry => ?_, hsame.deadline⟩
    have hsettle := (hsame.reply retry).settle c.timeout p.url
    show ((s.reply retry).settle c.timeout p.url).SameButBody
      ((t.reply retry).settle c.timeout p'.url)
    rwa [← hurl]
  have hafter (o : Option Outcome) : Event.after false o = [] := by
    unfold Event.after
    split <;> rfl
  have hretries := hplan.map_ofRetry c.retrySchedule 0 s.startedAt
  rw [events_call hp, events_call hp', hdebug, hafter, hafter, run, run, hretries, hsame.startedAt]
  rfl

/-- Whether bodies are traced shows in nothing but the events of bodies. -/
theorem sameButBodies_withDebug (c : Client) (debug : Bool) (request : Request)
    (s : Circumstances) :
    ((c.withDebug debug).call request s : Call α).SameButBodies (c.call request s) := by
  have hbase : (c.withDebug debug).baseUrl = c.baseUrl := rfl
  cases h : request.prepare c.baseUrl with
  | error e =>
    unfold call
    rw [hbase, h]
    exact ⟨rfl, rfl, rfl, rfl, rfl⟩
  | ok p =>
    have hwarnings : ((c.withDebug debug).call request s : Call α).warnings =
        (c.call request s : Call α).warnings := by
      rw [warnings_call h, warnings_call (hbase ▸ h)]
      rfl
    refine ⟨?_, ?_, ?_, hwarnings, ?_⟩ <;>
      · unfold call
        rw [hbase, h]
        rfl

/-- The events of a call tell its run. There is a warning before each attempt but the first, of the
pause and of what came of the attempt before. The body of the request comes first and the response
that the run ends with last, if bodies are traced; all else of the call is the same if they are and
if they are not. If they are not, the events are those of every other call to the same URL in which
all goes the same way but for bodies. -/
theorem call_events (hp : request.prepare c.baseUrl = .ok p) :
    (∃ response : Option (Nat × String),
      (c.call request s : Call α).events =
        (if c.debug then (p.body.map .requestBody).toList else []) ++
          (c.call request s : Call α).warnings ++
          (if c.debug then (response.map fun r => .responseBody r.1 r.2).toList else []) ∧
      ∀ status body, response = some (status, body) ↔ c.EndsWith request s status body) ∧
    (c.call request s : Call α).warnings.length + 1 =
      (c.call request s : Call α).attempts.length ∧
    (∀ i e, (c.call request s : Call α).warnings[i]? = some e →
      e.message = "Retrying request" ∧
      ∃ pause a o b, e = .retrying (i + 1) pause o.text ∧ c.retrySchedule[i]? = some pause ∧
        (c.call request s : Call α).attempts[i]? = some a ∧ a.outcome = some o ∧
        (c.call request s : Call α).attempts[i + 1]? = some b ∧
        b.startedAt = a.startedAt + (c.settled p s i).duration + pause ∧
        ∀ d, s.deadline = some d → b.startedAt < d) ∧
    (∀ debug, ((c.withDebug debug).call request s : Call α).SameButBodies (c.call request s)) ∧
    (c.debug = false → ∀ (request' : Request) (p' : Request.Prepared) (t : Circumstances),
      request'.prepare c.baseUrl = .ok p' → p.url = p'.url → s.SameButBodies t →
        (c.call request s : Call α).events = (c.call request' t : Call α).events) := by
  refine ⟨⟨(c.run p s).outcome.bind (·.response?), ?_, fun status body => ?_⟩, ?_, ?_, ?_, ?_⟩
  · have hafter (o : Option Outcome) : Event.after c.debug o =
        if c.debug then ((o.bind (·.response?)).map fun r => .responseBody r.1 r.2).toList
        else [] := by
      cases o with
      | none => cases c.debug <;> rfl
      | some o => cases o <;> cases c.debug <;> rfl
    rw [events_call hp, warnings_call hp, hafter]
    rfl
  · constructor
    · intro h
      obtain ⟨o, ho, hresponse⟩ := Option.bind_eq_some_iff.1 h
      cases o with
      | failed e => cases hresponse
      | received status' body' =>
        cases hresponse
        exact ⟨p, hp, ho⟩
    · rintro ⟨p', hp', ho⟩
      obtain rfl : p = p' := Except.ok.inj (hp.symm.trans hp')
      rw [ho]
      rfl
  · rw [warnings_call hp, List.length_map, (call_of_prepare_eq_ok hp).1]
    exact Run.length_retries_succ _ _ _ _
  · intro i e he
    obtain ⟨pause, a, o, b, rfl, h⟩ := getElem?_warnings hp he
    exact ⟨rfl, pause, a, o, b, rfl, h⟩
  · exact fun debug => sameButBodies_withDebug c debug request s
  · intro hdebug request' p' t hp' hurl hsame
    exact events_congr_of_debug_eq_false hdebug hp hp' hurl hsame

/-- A client that traces the body of a new application does so first, and its calls come to the
same as those of a client that does not. -/
theorem call_creation_events :
    ∃ p, creation.prepare (retryingClient.withDebug true).baseUrl = .ok p ∧
      (∃ later, ((retryingClient.withDebug true).call creation unavailableOnce : Call Json).events =
        .requestBody "{}" ::
          ((retryingClient.withDebug true).call creation unavailableOnce : Call Json).warnings ++
            later) ∧
      (((retryingClient.withDebug true).withDebug false).call creation unavailableOnce :
          Call Json).SameButBodies
        ((retryingClient.withDebug true).call creation unavailableOnce) := by
  have hp : creation.prepare (retryingClient.withDebug true).baseUrl =
      .ok ⟨.post, listingUrl, .empty, some "{}"⟩ := rfl
  obtain ⟨⟨response, hevents, -⟩, -, -, hdebug, -⟩ :=
    call_events (α := Json) (s := unavailableOnce) hp
  have htraced : (retryingClient.withDebug true).debug = true := rfl
  rw [if_pos htraced, if_pos htraced, Option.map_some, Option.toList_some,
    List.singleton_append] at hevents
  exact ⟨_, hp, ⟨_, hevents⟩, hdebug false⟩

end Client

end WebhookClient
