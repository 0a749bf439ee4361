import Mathlib
import WebhookClient.Proofs.Json.Integer
import WebhookClient.Proofs.Json.Place
import WebhookClient.Proofs.Json.Word
import WebhookClient.Proofs.Records.Update
import WebhookClient.Records.Catalog

/-!
# Integers, codes and words are read exactly

The integer fields of all records take the integer tokens of their range and no other number, and
take them for the integers that they are. States, classes and triggers are read from the integer
tokens of their codes, and sort orders, states and kinds of tasks from the strings that mean their
words. Main statement: `integers_codes_words_read_exactly`.
-/

set_option autoImplicit false

namespace WebhookClient

open Json Json.Flattened

namespace Json

/-! ## Types that hold an integer -/

/-- A type that number tokens are read as just if they are integers of a range. -/
class HoldsInteger (τ : Type) [Wire τ] (w : outParam Width) where
  hold : Bounded w → τ
  read_ofNumeral_iff : ∀ {depth : Nat} {n : Numeral} {v : τ},
    Wire.read depth (.ofNumeral n) = .ok v ↔ ∃ i : Bounded w, n.IsInteger i.value ∧ v = hold i

theorem Document.ofNumeral_ne_null (n : Numeral) : Document.ofNumeral n ≠ .null := by
  unfold Document.ofNumeral
  cases n.toNumber? <;> exact nofun

section

variable {w : Width}

instance : HoldsInteger (Bounded w) w where
  hold i := i
  read_ofNumeral_iff := by
    intro depth n v
    rw [read_ofNumeral_bounded_iff]
    simp

instance : HoldsInteger (Option (Bounded w)) w where
  hold := some
  read_ofNumeral_iff := by
    intro depth n v
    simp only [read_option_eq_ok_iff (Document.ofNumeral_ne_null n), read_ofNumeral_bounded_iff]

instance : HoldsInteger (Nullable (Bounded w)) w where
  hold := .value
  read_ofNumeral_iff := by
    intro depth n v
    rw [read_nullable_eq_ok_iff]
    simp only [read_option_eq_ok_iff (Document.ofNumeral_ne_null n), read_ofNumeral_bounded_iff]
    constructor
    · rintro ⟨_, ⟨i, hi, rfl⟩, rfl⟩
      exact ⟨i, hi, rfl⟩
    · rintro ⟨i, hi, rfl⟩
      exact ⟨some i, ⟨i, hi, rfl⟩, rfl⟩

end

/-- A number token in the place of an integer field is read just if it is an integer token of the
range of the field, and what is read is the record with that integer. The token may stand under the
name of the field, wherever that is among the members of an object, or at the index of the field in
a list; the record may be what a text says, or stand within other values. -/
structure ReadsInteger (α : Type) [Record α] (name : String) {w : Width}
    (set : α → Bounded w → α) : Prop where
  members : ∀ (depth : Nat) (ns ms : List (String × Document)) (a : α) (n : Numeral),
    Wire.read (depth + 1) (.object (asMembers ns)) = .ok a →
      ms.Perm ((name, .ofNumeral n) :: without name ns) → ∀ b : α,
        Wire.read (depth + 1) (.object (asMembers ms)) = .ok b ↔
          ∃ i : Bounded w, n.IsInteger i.value ∧ b = set a i
  items : ∀ (depth index : Nat) (ds : List Document) (a : α) (n : Numeral),
    Wire.read (depth + 1) (.list (.append ds .closed)) = .ok a → index < ds.length →
      (Record.fields (α := α)).names[index]? = some name → ∀ b : α,
        Wire.read (depth + 1) (.list (.append (ds.set index (.ofNumeral n)) .closed)) = .ok b ↔
          ∃ i : Bounded w, n.IsInteger i.value ∧ b = set a i
  texts : ∀ (s t : String) (ns ms : List (String × Document)) (a : α) (n : Numeral),
    SaysObject s ns → SaysObject t ms → decode s = .ok a →
      ms.Perm ((name, .ofNumeral n) :: without name ns) → ∀ b : α,
        decode t = .ok b ↔ ∃ i : Bounded w, n.IsInteger i.value ∧ b = set a i

/-- A field whose type holds an integer reads it. -/
theorem readsInteger {α τ : Type} [Record α] [Wire τ] {w : Width} [HoldsInteger τ w] {f : Field τ}
    {set : α → Bounded w → α} (p : Place f (Record.fields (α := α))) (hread : f.read = Wire.read)
    (hset : ∀ a i, Record.toRow (set a i) = p.set (Record.toRow a) (HoldsInteger.hold i))
    (hnames : (Record.fields (α := α)).names.Nodup) : ReadsInteger α f.name set := by
  have hvalue : ∀ {depth : Nat} {a b : α} {n : Numeral},
      (∃ v, f.read depth (.ofNumeral n) = .ok v ∧ Record.toRow b = p.set (Record.toRow a) v) ↔
        ∃ i : Bounded w, n.IsInteger i.value ∧ b = set a i := by
    intro depth a b n
    rw [hread]
    constructor
    · rintro ⟨v, hv, hb⟩
      obtain ⟨i, hi, rfl⟩ := HoldsInteger.read_ofNumeral_iff.1 hv
      refine ⟨i, hi, ?_⟩
      rw [← Record.ofRow_toRow b, hb, ← hset, Record.ofRow_toRow]
    · rintro ⟨i, hi, rfl⟩
      exact ⟨_, HoldsInteger.read_ofNumeral_iff.2 ⟨i, hi, rfl⟩, hset a i⟩
  have hmembers : ∀ (depth : Nat) (ns ms : List (String × Document)) (a : α) (n : Numeral),
      Wire.read (depth + 1) (.object (asMembers ns)) = .ok a →
        ms.Perm ((f.name, .ofNumeral n) :: without f.name ns) → ∀ b : α,
          Wire.read (depth + 1) (.object (asMembers ms)) = .ok b ↔
            ∃ i : Bounded w, n.IsInteger i.value ∧ b = set a i :=
    fun depth ns ms a n ha hms b =>
      (Record.read_members_replaced_iff p hnames ha hms).trans hvalue
  refine ⟨hmembers, fun depth index ds a n ha hindex hname b => ?_,
    fun s t ns ms a n hs ht ha hms b => ?_⟩
  · rw [p.eq_index hnames hname] at hindex ⊢
    exact (Record.read_items_replaced_iff p ha hindex).trans hvalue
  · rw [decode_of_saysObject hs] at ha
    rw [decode_of_saysObject ht]
    exact hmembers _ ns ms a n ha hms b

end Json

/-! ## The integer fields -/

/-- An integer field of a record. -/
structure IntegerField where
  carrier : Type
  record : Record carrier
  name : String
  width : Width
  set : carrier → Bounded width → carrier

namespace IntegerField

/-- A field of a record. -/
def of (α : Type) [record : Record α] (name : String) (w : Width) (set : α → Bounded w → α) :
    IntegerField :=
  ⟨α, record, name, w, set⟩

/-- The field reads just the integers of its range. -/
def IsExact (f : IntegerField) : Prop :=
  let _ := f.record
  ReadsInteger f.carrier f.name f.set

/-- The integer fields of all records. -/
def catalog : List IntegerField :=
  [of ApplicationIn "rateLimit" .u16 fun r i => { r with rateLimit := some i },
   of ApplicationOut "rateLimit" .u16 fun r i => { r with rateLimit := some i },
   of ApplicationPatch "rateLimit" .u16 fun r i => { r with rateLimit := .value i },
   of AppPortalAccessIn "expiry" .u64 fun r i => { r with expiry := some i },
   of ApplicationTokenExpireIn "expiry" .u64 fun r i => { r with expiry := some i },
   of EndpointIn "rateLimit" .u16 fun r i => { r with rateLimit := some i },
   of EndpointUpdate "rateLimit" .u16 fun r i => { r with rateLimit := some i },
   of EndpointPatch "rateLimit" .u16 fun r i => { r with rateLimit := .value i },
   of EndpointOut "version" .i32 fun r i => { r with version := i },
   of EndpointOut "rateLimit" .u16 fun r i => { r with rateLimit := some i },
   of EventExampleIn "exampleIndex" .i64 fun r i => { r with exampleIndex := some i },
   of MessageIn "payloadRetentionPeriod" .i64 fun r i =>
     { r with payloadRetentionPeriod := some i },
   of MessageAttemptOut "responseStatusCode" .i16 fun r i => { r with responseStatusCode := i },
   of MessageAttemptOut "responseDurationMs" .i64 fun r i => { r with responseDurationMs := i },
   of MessageEndpointOut "version" .i32 fun r i => { r with version := i },
   of MessageEndpointOut "rateLimit" .u16 fun r i => { r with rateLimit := some i },
   of OperationalWebhookEndpointIn "rateLimit" .u16 fun r i => { r with rateLimit := some i },
   of OperationalWebhookEndpointUpdate "rateLimit" .u16 fun r i => { r with rateLimit := some i },
   of OperationalWebhookEndpointOut "rateLimit" .u16 fun r i => { r with rateLimit := some i }]

/-- A field of a record is exact if the type of its values holds an integer. -/
theorem isExact {α τ : Type} [Record α] [Wire τ] {w : Width} [HoldsInteger τ w] {f : Json.Field τ}
    {set : α → Bounded w → α}
    (p : Place f (Record.fields (α := α)) := by dsimp only [Record.fields]; infer_instance)
    (hread : f.read = Wire.read := by rfl)
    (hset : ∀ a i, Record.toRow (set a i) = p.set (Record.toRow a) (HoldsInteger.hold i) := by
      exact fun _ _ => rfl)
    (hnames : (Record.fields (α := α)).names.Nodup := by decide) : (of α f.name w set).IsExact := by
  have hreads : ReadsInteger α f.name set := readsInteger p hread hset hnames
  exact hreads

theorem isExact_of_mem_catalog : ∀ f ∈ catalog, f.IsExact := by
  unfold catalog
  simp only [List.forall_mem_cons, List.not_mem_nil, IsEmpty.forall_iff, implies_true, and_true]
  exact
    ⟨isExact (f := .optional (τ := Bounded .u16) "rateLimit"),
     isExact (f := .optional (τ := Bounded .u16) "rateLimit"),
     isExact (f := .nullable (τ := Bounded .u16) "rateLimit"),
     isExact (f := .optional (τ := Bounded .u64) "expiry"),
     isExact (f := .optional (τ := Bounded .u64) "expiry"),
     isExact (f := .optional (τ := Bounded .u16) "rateLimit"),
     isExact (f := .optional (τ := Bounded .u16) "rateLimit"),
     isExact (f := .nullable (τ := Bounded .u16) "rateLimit"),
     isExact (f := .required (τ := Bounded .i32) "version"),
     isExact (f := .optional (τ := Bounded .u16) "rateLimit"),
     isExact (f := .optional (τ := Bounded .i64) "exampleIndex"),
     isExact (f := .optional (τ := Bounded .i64) "payloadRetentionPeriod"),
     isExact (f := .required (τ := Bounded .i16) "responseStatusCode"),
     isExact (f := .required (τ := Bounded .i64) "responseDurationMs"),
     isExact (f := .required (τ := Bounded .i32) "version"),
     isExact (f := .optional (τ := Bounded .u16) "rateLimit"),
     isExact (f := .optional (τ := Bounded .u16) "rateLimit"),
     isExact (f := .optional (τ := Bounded .u16) "rateLimit"),
     isExact (f := .optional (τ := Bounded .u16) "rateLimit")⟩

end IntegerField

/-- A number token is one token of its document wherever it stands. It is read as a state, a class
or a trigger just if it is an integer token of a declared code, as an integer of a range just if it
is an integer token of the range, and so in every integer field. A string, however it is spelled, is
read as a sort order, or as the state or kind of a task, just if it means the word of one. -/
theorem integers_codes_words_read_exactly :
    (∀ (n : Numeral) (cs rest : List Char), n.Spells cs → rest.head?.all Numeral.endsNumber →
      tokens (cs ++ rest) = .leaf (.ofNumeral n) :: tokens rest) ∧
    (ReadsCodes MessageStatus [0, 1, 2, 3] ∧
      ReadsCodes StatusCodeClass [0, 100, 200, 300, 400, 500] ∧ ReadsCodes TriggerType [0, 1]) ∧
    ((∀ w, ReadsIntegers w) ∧ ∀ f ∈ IntegerField.catalog, f.IsExact) ∧
    ReadsWords SortOrder ∧ ReadsWords TaskStatus ∧ ReadsWords TaskKind := by
  refine ⟨fun n cs rest h hrest => h.tokens_append hrest, ⟨readsCodes rfl, readsCodes rfl,
    readsCodes rfl⟩, ⟨readsIntegers, IntegerField.isExact_of_mem_catalog⟩, ?_, ?_, ?_⟩
  · exact readsWords fun a => by cases a <;> rfl
  · exact readsWords fun a => by cases a <;> rfl
  · exact readsWords fun a => by cases a <;> rfl

/-- The greatest integer of 16 bits is followed by none, and none is the rest of a greater one. -/
example : (decode (α := Bounded .u16) "65535").map (·.value) = .ok 65535 ∧
    decode (α := Bounded .u16) "70000" = .error (.wrongValue (.number (.int 70000)) "u16") ∧
    decode (α := MessageStatus) "65538" = .error (.wrongValue (.number (.int 65538)) "i16") := by
  refine ⟨?_, ?_, ?_⟩ <;> cbv

/-- A word may be spelled with escapes. -/
example : decode (α := TaskStatus) "\"\\u0066aile\\u0064\"" = .ok .failed := by
  cbv

end WebhookClient
