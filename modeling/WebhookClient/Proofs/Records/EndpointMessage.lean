import Mathlib
import WebhookClient.Proofs.Json.Along
import WebhookClient.Proofs.Json.Enumeration
import WebhookClient.Records.Attempt

/-!
# A message and its state of delivery

The members of a message stand among those of its state of delivery to an endpoint. They are set
aside there until the state is complete, and the message is then read from them; it is the message
that is read from the whole text. Main statement: `endpointMessage_is_message`.
-/

set_option autoImplicit false

namespace WebhookClient

open Json

namespace Json

/-! ## Values of the fields -/

/-- An instant is read from its text. -/
theorem read_instant_eq_ok_iff {depth : Nat} {d : Document} {t : Instant} :
    Wire.read depth d = .ok t ↔ ∃ s, d = .string (.plain s) ∧ Instant.ofText s = .ok t := by
  constructor
  · intro h
    cases d with
    | string token =>
      cases token with
      | plain s => exact ⟨s, rfl, mapError_eq_ok_iff.1 h⟩
      | _ => cases h
    | _ => cases h
  · rintro ⟨s, rfl, h⟩
    exact mapError_eq_ok_iff.2 h

end Json

/-! ## Messages and their states -/

/-- What a member of an instant that can be missing says: no instant if it is missing or `null`, and
otherwise that of its text. -/
inductive SaysInstant : Option Document → Option Instant → Prop where
  | missing : SaysInstant none none
  | null : SaysInstant (some .null) none
  | text {s : String} {t : Instant} (h : Instant.ofText s = .ok t) :
      SaysInstant (some (.string (.plain s))) (some t)

theorem takes_instant_iff {name : String} {depth : Nat} {ns : List (String × Document)}
    {next : Option Instant} :
    (Field.optional name).Takes depth ns next ↔ SaysInstant (lookup name ns) next := by
  cases hlookup : lookup name ns with
  | none =>
    rw [Field.takes_of_lookup_none hlookup]
    constructor
    · intro h
      cases h
      exact .missing
    · intro h
      cases h
      rfl
  | some d =>
    rw [Field.takes_of_lookup_some hlookup]
    by_cases hd : d = .null
    · subst hd
      constructor
      · intro h
        cases h
        exact .null
      · intro h
        cases h
        rfl
    · show Wire.read depth d = .ok next ↔ _
      rw [read_option_of_ne_null hd, map_eq_ok_iff]
      constructor
      · rintro ⟨t, ht, rfl⟩
        obtain ⟨s, rfl, hs⟩ := read_instant_eq_ok_iff.1 ht
        exact .text hs
      · intro h
        cases h with
        | null => exact absurd rfl hd
        | text hs => exact ⟨_, read_instant_eq_ok_iff.2 ⟨_, rfl, hs⟩, rfl⟩

theorem takes_status_iff {depth : Nat} {ns : List (String × Document)} {status : MessageStatus} :
    (Field.required "status").Takes depth ns status ↔
      lookup "status" ns = some (.number (.int (Coded.code status).value)) := by
  rw [Field.takes_required_iff]
  simp only [read_coded_eq_ok_iff, exists_eq_right]

/-- What is read as a message and its state is read as a message, beside the state. -/
theorem decode_endpointMessage_iff {s : String} {ns : List (String × Document)}
    (hs : SaysObject s ns) (hnames : (namesOf ns).Nodup) (hjson : ∀ m ∈ ns, m.2.IsJson)
    {e : EndpointMessageOut} :
    decode s = .ok e ↔ decode s = .ok e.msg ∧
      lookup "status" ns = some (.number (.int (Coded.code e.status).value)) ∧
      SaysInstant (lookup "nextAttempt" ns) e.nextAttempt := by
  have hall : (Flattened.allFields EndpointMessageOut).names.Nodup := by decide
  rw [Flattened.decode_iff hs hnames hjson hall]
  refine and_congr_right' ?_
  show (Field.required "status").Takes _ ns e.status ∧
    (Field.optional "nextAttempt").Takes _ ns e.nextAttempt ∧ True ↔ _
  rw [takes_instant_iff, takes_status_iff, and_true]

/-- The members of a state of delivery. -/
def EndpointMessageOut.stateMembers (e : EndpointMessageOut) : List (String × Json) :=
  ("status", .number (.int (Coded.code e.status).value)) ::
    (e.nextAttempt.map fun t => ("nextAttempt", Json.string t.toText)).toList

theorem members_endpointMessage (e : EndpointMessageOut) :
    Flattened.members e = Record.members e.msg ++ e.stateMembers := by
  obtain ⟨msg, status, next⟩ := e
  cases next <;> rfl

/-- A message and its state are read from the objects that a message is read from and that say a
state, and the message is the one that is read from the same text. They are written as the members
of the message and then those of the state, all of distinct names. -/
theorem endpointMessage_is_message :
    (∀ (s : String) (ns : List (String × Document)), SaysObject s ns → (namesOf ns).Nodup →
      (∀ m ∈ ns, m.2.IsJson) →
        ((∃ e : EndpointMessageOut, decode s = .ok e) ↔
          (∃ m : MessageOut, decode s = .ok m) ∧
            (∃ status : MessageStatus,
              lookup "status" ns = some (.number (.int (Coded.code status).value))) ∧
            ∃ next, SaysInstant (lookup "nextAttempt" ns) next) ∧
        ∀ e : EndpointMessageOut, decode s = .ok e → decode s = .ok e.msg ∧
          lookup "status" ns = some (.number (.int (Coded.code e.status).value)) ∧
          SaysInstant (lookup "nextAttempt" ns) e.nextAttempt) ∧
      ∀ e : EndpointMessageOut, ∃ ms, encode e.msg = (Json.object ms).toText ∧
        encode e = (Json.object (ms ++ e.stateMembers)).toText ∧
          (namesOf (ms ++ e.stateMembers)).Nodup := by
  refine ⟨fun s ns hs hnames hjson => ?_, fun e => ⟨Record.members e.msg, rfl, ?_, ?_⟩⟩
  · have hiff := fun e => decode_endpointMessage_iff (e := e) hs hnames hjson
    refine ⟨⟨?_, ?_⟩, fun e => (hiff e).1⟩
    · rintro ⟨e, he⟩
      obtain ⟨hmsg, hstatus, hnext⟩ := (hiff e).1 he
      exact ⟨⟨e.msg, hmsg⟩, ⟨e.status, hstatus⟩, e.nextAttempt, hnext⟩
    · rintro ⟨⟨msg, hmsg⟩, ⟨status, hstatus⟩, next, hnext⟩
      exact ⟨⟨msg, status, next⟩, (hiff _).2 ⟨hmsg, hstatus, hnext⟩⟩
  · rw [← members_endpointMessage]
    rfl
  · rw [← members_endpointMessage]
    exact Flattened.nodup_namesOf_members (by decide) e

/-- The members of the message and those of its state may stand in any order. -/
example : (decode (α := EndpointMessageOut)
    ("\x7b\"status\":1,\"id\":\"m\",\"eventType\":\"e\",\"payload\":[]," ++
      "\"timestamp\":\"1970-01-01T00:00:00Z\"\x7d")).map (·.msg.id) = .ok "m" := by
  cbv

end WebhookClient
