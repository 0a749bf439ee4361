import Mathlib
import WebhookClient.Proofs.Call.Run
import WebhookClient.Proofs.Call.Schedule
import WebhookClient.Proofs.Header

/-!
# What the attempts of a call send

Every attempt sends the request that has been prepared, with headers of its own beside those of
the client and of the call. `get_headers_ofAttempt` tells what stands under each name. The
attempts of one call differ in nothing but the number of the retry: `sent_eq_of_mem_attempts`.
-/

set_option autoImplicit false

namespace WebhookClient

namespace Run

/-- The attempts of a run send what they are given, by their numbers. -/
theorem sent_of_getElem? (p : Plan) (pauses : List Nat) (retry now : Nat) {i : Nat} {a : Attempt}
    (ha : (proceed p pauses retry now).attempts[i]? = some a) : a.sent = p.sent (retry + i) := by
  induction pauses, retry, now using proceed_induction (p := p) generalizing i with
  | again pause rest retry now h hretryable hpause ih =>
    cases i with
    | zero =>
      cases ha
      rfl
    | succ i =>
      have hretry : retry + (i + 1) = retry + 1 + i := by omega
      rw [hretry]
      exact ih ha
  | _ =>
    -- There is one attempt only.
    cases i with
    | zero =>
      cases ha
      rfl
    | succ i => cases ha

end Run

namespace Sent

variable {c : Client} {p : Request.Prepared} {name : HeaderName}

/-- The headers of an attempt before those of the call are set: those of the client, the number of
the call, and from the second attempt on that of the retry. -/
def numbered (c : Client) (requestId retry : Nat) : Headers :=
  let identified := c.headers.add requestIdName (number requestId)
  if retry = 0 then identified else identified.add retryCountName (number retry)

theorem get_numbered_requestIdName (c : Client) (requestId retry : Nat) :
    (numbered c requestId retry).get requestIdName =
      c.headers.get requestIdName ++ [number requestId] := by
  unfold numbered
  dsimp only
  split_ifs
  · exact Headers.get_add_self
  · rw [Headers.get_add_of_ne (by decide), Headers.get_add_self]

theorem get_numbered_retryCountName (c : Client) (requestId retry : Nat) :
    (numbered c requestId retry).get retryCountName =
      c.headers.get retryCountName ++ if retry = 0 then [] else [number retry] := by
  have hid : (c.headers.add requestIdName (number requestId)).get retryCountName =
      c.headers.get retryCountName := Headers.get_add_of_ne (by decide)
  unfold numbered
  dsimp only
  split_ifs
  · rw [hid, List.append_nil]
  · rw [Headers.get_add_self, hid]

theorem get_numbered_of_ne (hid : name ≠ requestIdName) (hcount : name ≠ retryCountName)
    (requestId retry : Nat) : (numbered c requestId retry).get name = c.headers.get name := by
  unfold numbered
  dsimp only
  split_ifs
  · exact Headers.get_add_of_ne hid
  · rw [Headers.get_add_of_ne hcount, Headers.get_add_of_ne hid]

/-- The number of the retry stands under one name only. -/
theorem get_numbered_congr (hcount : name ≠ retryCountName) (requestId retry retry' : Nat) :
    (numbered c requestId retry).get name = (numbered c requestId retry').get name := by
  by_cases hid : name = requestIdName
  · rw [hid, get_numbered_requestIdName, get_numbered_requestIdName]
  · rw [get_numbered_of_ne hid hcount, get_numbered_of_ne hid hcount]

theorem headers_ofAttempt (c : Client) (p : Request.Prepared) (requestId retry : Nat) :
    (ofAttempt c p requestId retry).headers =
      if p.body.isSome then
        ((numbered c requestId retry).setAll p.headers).add contentTypeName jsonType
      else (numbered c requestId retry).setAll p.headers :=
  rfl

/-- Under each name an attempt sends the value of the call, or else what stands before it, and
after that the type of the body. -/
theorem get_headers_ofAttempt (c : Client) (p : Request.Prepared) (requestId retry : Nat)
    (name : HeaderName) :
    (ofAttempt c p requestId retry).headers.get name =
      (p.headers.get name).getLast?.elim ((numbered c requestId retry).get name) ([·]) ++
        if p.body.isSome ∧ name = contentTypeName then [jsonType] else [] := by
  rw [headers_ofAttempt, ← Headers.get_setAll]
  by_cases hbody : p.body.isSome
  · by_cases htype : name = contentTypeName
    · rw [if_pos hbody, if_pos ⟨hbody, htype⟩, htype, Headers.get_add_self]
    · rw [if_pos hbody, if_neg fun h => htype h.2, List.append_nil,
        Headers.get_add_of_ne htype]
  · rw [if_neg hbody, if_neg fun h => hbody h.1, List.append_nil]

/-- Under a name that the client does not use for itself an attempt sends what the headers of the
call make of those of the client. -/
theorem get_ofAttempt (hid : name ≠ requestIdName) (hcount : name ≠ retryCountName)
    (htype : name ≠ contentTypeName) (requestId retry : Nat) :
    (ofAttempt c p requestId retry).headers.get name =
      (p.headers.get name).getLast?.elim (c.headers.get name) ([·]) := by
  rw [get_headers_ofAttempt, if_neg fun h => htype h.2, List.append_nil,
    get_numbered_of_ne hid hcount]

end Sent

namespace Client

variable {α : Type} [Json.Wire α] {c : Client} {request : Request} {s : Circumstances}

/-- The attempts of a call send what the request has been prepared to, by their numbers. -/
theorem sent_of_getElem?_attempts {p : Request.Prepared} {i : Nat} {a : Attempt}
    (hp : request.prepare c.baseUrl = .ok p)
    (ha : (c.call request s : Call α).attempts[i]? = some a) :
    a.sent = Sent.ofAttempt c p s.requestId i := by
  rw [(call_of_prepare_eq_ok hp).1] at ha
  have hsent := Run.sent_of_getElem? (c.plan p s) c.retrySchedule 0 s.startedAt ha
  rw [Nat.zero_add] at hsent
  exact hsent

/-- An attempt of a call sends what the request has been prepared to. -/
theorem exists_of_mem_attempts {a : Attempt} (ha : a ∈ (c.call request s : Call α).attempts) :
    ∃ p retry, request.prepare c.baseUrl = .ok p ∧
      a.sent = Sent.ofAttempt c p s.requestId retry := by
  cases hp : request.prepare c.baseUrl with
  | error e =>
    unfold call at ha
    rw [hp] at ha
    cases ha
  | ok p =>
    obtain ⟨i, hi⟩ := List.mem_iff_getElem?.1 ha
    exact ⟨p, i, rfl, sent_of_getElem?_attempts hp hi⟩

/-- A call whose request can be sent makes an attempt to send it. -/
theorem exists_mem_attempts {p : Request.Prepared} (hp : request.prepare c.baseUrl = .ok p) :
    ∃ a ∈ (c.call request s : Call α).attempts,
      a.sent = Sent.ofAttempt c p s.requestId 0 := by
  obtain ⟨a, ha⟩ := exists_first_attempt (α := α) (s := s) hp
  exact ⟨a, List.mem_of_getElem? ha, sent_of_getElem?_attempts hp ha⟩

/-- All attempts of a call send the same method, URL and body, and the same values under every
name but that of the number of the retry. -/
theorem sent_eq_of_mem_attempts {a b : Attempt}
    (ha : a ∈ (c.call request s : Call α).attempts)
    (hb : b ∈ (c.call request s : Call α).attempts) :
    b.sent.method = a.sent.method ∧ b.sent.url = a.sent.url ∧ b.sent.body = a.sent.body ∧
      ∀ name ≠ Sent.retryCountName, b.sent.headers.get name = a.sent.headers.get name := by
  obtain ⟨p, retry, hp, hsent⟩ := exists_of_mem_attempts ha
  obtain ⟨p', retry', hp', hsent'⟩ := exists_of_mem_attempts hb
  have hsame : p' = p := Except.ok.inj (hp'.symm.trans hp)
  subst hsame
  rw [hsent, hsent']
  refine ⟨rfl, rfl, rfl, fun name hcount => ?_⟩
  rw [Sent.get_headers_ofAttempt, Sent.get_headers_ofAttempt,
    Sent.get_numbered_congr hcount s.requestId retry' retry]

theorem exists_second_listing :
    ∃ b, (retryingClient.call listing unavailableOnce : Call Json).attempts[1]? = some b := by
  have hd : unavailableOnce.deadline = none := rfl
  have hp : listing.prepare retryingClient.baseUrl = .ok ⟨.get, listingUrl, .empty, none⟩ :=
    prepare_listing
  obtain ⟨a, ha, hreceived⟩ := exists_received_listing hd rfl
  obtain ⟨hsettled, hnext, -⟩ := after_getElem?_attempts hd hp ha
  rw [hreceived] at hsettled
  have hbegin : (unavailableOnce.reply 0).MayBegin 503 := rfl
  have hretryable := (Reply.isRetryable_settle_iff hsettled.symm hbegin (by decide)).2 id
  exact ⟨_, List.getElem?_eq_getElem (hnext.2 ⟨hretryable, by decide⟩)⟩

/-- The second attempt at the listing sends what the first one sent. -/
theorem sent_eq_listing :
    ∃ a ∈ (retryingClient.call listing unavailableOnce : Call Json).attempts,
      ∃ b, (retryingClient.call listing unavailableOnce : Call Json).attempts[1]? = some b ∧
        b ∈ (retryingClient.call listing unavailableOnce : Call Json).attempts ∧
        b.sent.url = a.sent.url ∧
        ∀ name ≠ Sent.retryCountName, b.sent.headers.get name = a.sent.headers.get name := by
  obtain ⟨a, ha, -⟩ := exists_received_listing (s := unavailableOnce) rfl rfl
  obtain ⟨b, hb⟩ := exists_second_listing
  have ha' := List.mem_of_getElem? ha
  have hb' := List.mem_of_getElem? hb
  obtain ⟨-, hurl, -, hheaders⟩ := sent_eq_of_mem_attempts ha' hb'
  exact ⟨a, ha', b, hb, hb', hurl, hheaders⟩

end Client

end WebhookClient
