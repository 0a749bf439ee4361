import Mathlib
import WebhookClient.Call.Reply

/-!
# What comes of a reply

A request that reaches the server has an outcome that the reply tells, if the reply is complete in
time. Once the head of a response with a status of 500 or more has come, the outcome is retryable
unless the body breaks off in time. Main statement: `isRetryable_settle_iff`.
-/

set_option autoImplicit false

namespace WebhookClient.Reply

/-- The head of a response with a status may have come; after it the connection may stay silent. -/
def MayBegin (status : Nat) : Reply → Prop
  | .response _ other _ | .cutShort _ other => other = status
  | .silence => True
  | .disconnect _ | .noConnection _ => False

/-- The connection ends before the body of the response does, and before the time is up. -/
def BreaksOff (timeout : Nat) : Reply → Prop
  | .cutShort t _ => t < timeout
  | _ => False

variable {timeout : Nat} {url : Url} {reply : Reply}

/-- Nothing reaches the server if no request can be sent to the URL. -/
theorem isSendable_of_received (h : (reply.settle timeout url).received = true) :
    url.withoutUser.isSendable = true := by
  by_contra hs
  rw [Bool.not_eq_true] at hs
  unfold settle at h
  simp [hs] at h

theorem received_settle (hs : url.withoutUser.isSendable = true) :
    (reply.settle timeout url).received = reply.isReceived := by
  unfold settle
  dsimp only
  rw [hs]
  cases reply.time? with
  | none => rfl
  | some t => by_cases ht : t < timeout <;> simp [ht]

/-- A reply that is complete in time tells the outcome; otherwise the time is up. -/
theorem outcome_settle (hs : url.withoutUser.isSendable = true) :
    (reply.settle timeout url).outcome =
      if ∃ t ∈ reply.time?, t < timeout then reply.outcome timeout url.withoutUser.toText
      else .failed (.timeout timeout) := by
  unfold settle
  dsimp only
  rw [hs]
  cases reply.time? with
  | none => rfl
  | some t => by_cases ht : t < timeout <;> simp [ht]

/-- A response that comes in time. -/
theorem settle_response (hs : url.withoutUser.isSendable = true) {after : Nat}
    (hafter : after < timeout) (status : Nat) (bytes : List UInt8) :
    (response after status bytes).settle timeout url =
      ⟨after, .received status (bodyText status bytes), true⟩ := by
  unfold settle
  dsimp only
  rw [hs]
  exact if_pos hafter

/-- A body that breaks off is all that is told of the response. -/
theorem outcome_settle_of_breaksOff (hreceived : (reply.settle timeout url).received = true)
    (hbreak : reply.BreaksOff timeout) :
    (reply.settle timeout url).outcome = .failed .bodyCutShort := by
  rw [outcome_settle (isSendable_of_received hreceived)]
  cases reply with
  | cutShort t status =>
    have htime : ∃ t' ∈ (cutShort t status).time?, t' < timeout := ⟨t, rfl, hbreak⟩
    rw [if_pos htime]
    rfl
  | response t status body => exact absurd hbreak id
  | silence => exact absurd hbreak id
  | disconnect t => exact absurd hbreak id
  | noConnection t => exact absurd hbreak id

/-- With a status of 500 or more the outcome is retryable unless the body breaks off. -/
theorem isRetryable_settle_iff {status : Nat}
    (hreceived : (reply.settle timeout url).received = true) (hbegin : reply.MayBegin status)
    (hstatus : 500 ≤ status) :
    (reply.settle timeout url).outcome.isRetryable = true ↔ ¬ reply.BreaksOff timeout := by
  by_cases hbreak : reply.BreaksOff timeout
  · rw [outcome_settle_of_breaksOff hreceived hbreak]
    refine ⟨fun h => ?_, fun h => absurd hbreak h⟩
    cases h
  · refine ⟨fun _ => hbreak, fun _ => ?_⟩
    rw [outcome_settle (isSendable_of_received hreceived)]
    split_ifs with htime
    · -- A reply that is complete in time and does not break off is the whole response.
      obtain ⟨t, ht, hlt⟩ := htime
      cases reply with
      | response t' other body =>
        have hother : 500 ≤ other := by
          rw [show other = status from hbegin]
          exact hstatus
        exact decide_eq_true hother
      | cutShort t' other =>
        cases ht
        exact absurd hlt hbreak
      | silence => cases ht
      | disconnect t' => exact absurd hbegin id
      | noConnection t' => exact absurd hbegin id
    · rfl

end WebhookClient.Reply
