import Mathlib
import WebhookClient.Proofs.Request.Basic

/-!
# Faults of requests

A request can be sent if its path can be filled in, all its headers can be sent and its body could
be written. If not, the first of the three that fails is reported, with a failure of one of four
kinds (`Fault`). Main statements: `exists_prepare_eq_ok`, `fault_of_prepare_eq_error`.
-/

set_option autoImplicit false

namespace WebhookClient

/-! ## Headers that can be sent -/

namespace Header

/-- A name and a value that can be sent; capital letters of the name count as small ones. -/
def IsSendable (name value : String) : Prop :=
  isName (name.toList.map Char.toLower) = true ∧ isValue value.toList = true

instance (name value : String) : Decidable (IsSendable name value) :=
  inferInstanceAs (Decidable (_ ∧ _))

variable {s : String}

theorem exists_ofText_name (h : isName (s.toList.map Char.toLower) = true) :
    ∃ n, HeaderName.ofText s = .ok n := by
  rw [← String.toList_ofList (l := s.toList.map Char.toLower)] at h
  exact ⟨_, dif_pos h⟩

theorem ofText_name_of_not (h : ¬ isName (s.toList.map Char.toLower) = true) :
    HeaderName.ofText s = .error .name := by
  rw [← String.toList_ofList (l := s.toList.map Char.toLower)] at h
  exact dif_neg h

theorem exists_ofText_value (h : isValue s.toList = true) : ∃ v, HeaderValue.ofText s = .ok v :=
  ⟨_, dif_pos h⟩

theorem ofText_value_of_not (h : ¬ isValue s.toList = true) :
    HeaderValue.ofText s = .error .value :=
  dif_neg h

end Header

namespace Request

open Header

variable {name value : String}

theorem exists_readHeader_eq_ok (h : IsSendable name value) :
    ∃ l, readHeader name value = .ok l := by
  obtain ⟨n, hn⟩ := exists_ofText_name h.1
  obtain ⟨v, hv⟩ := exists_ofText_value h.2
  refine ⟨(n, v), ?_⟩
  rw [readHeader, hn, hv]
  rfl

/-- A value that cannot be sent is reported under its name, if that can be. -/
theorem readHeader_of_not_isValue (hname : isName (name.toList.map Char.toLower) = true)
    (hvalue : ¬ isValue value.toList = true) :
    readHeader name value = .error (.invalidHeader name Fault.value.message) := by
  obtain ⟨n, hn⟩ := exists_ofText_name hname
  rw [readHeader, hn, ofText_value_of_not hvalue]
  rfl

/-- A header that cannot be sent is reported under its name. -/
theorem readHeader_of_not_isSendable (h : ¬ IsSendable name value) :
    ∃ fault : Fault, readHeader name value = .error (.invalidHeader name fault.message) := by
  by_cases hname : isName (name.toList.map Char.toLower) = true
  · exact ⟨.value, readHeader_of_not_isValue hname fun hvalue => h ⟨hname, hvalue⟩⟩
  · refine ⟨.name, ?_⟩
    rw [readHeader, ofText_name_of_not hname]
    rfl

/-- The headers that are read are those that can be sent. -/
theorem exists_readHeader_eq_ok_iff :
    (∃ l, readHeader name value = .ok l) ↔ IsSendable name value := by
  refine ⟨fun ⟨l, hl⟩ => ?_, exists_readHeader_eq_ok⟩
  by_contra hbad
  obtain ⟨fault, hfault⟩ := readHeader_of_not_isSendable hbad
  rw [hfault] at hl
  cases hl

/-- What is reported of a header is that it cannot be sent, under its name. -/
theorem of_readHeader_eq_error {e : Failure} (h : readHeader name value = .error e) :
    ¬ IsSendable name value ∧ ∃ fault : Fault, e = .invalidHeader name fault.message := by
  have hbad : ¬ IsSendable name value := by
    rw [← exists_readHeader_eq_ok_iff, h]
    rintro ⟨_, hok⟩
    cases hok
  obtain ⟨fault, hfault⟩ := readHeader_of_not_isSendable hbad
  rw [hfault] at h
  exact ⟨hbad, fault, (Except.error.inj h).symm⟩

/-! ## The three checks -/

/-- Every segment of the path can be filled in. -/
def IsFillable (r : Request) : Prop :=
  ∀ ps ∈ Template.segments r.template, Template.IsAccepted r.pathParams ps

/-- Every header can be sent. -/
def HasSendableHeaders (r : Request) : Prop :=
  ∀ l ∈ r.headerParams.entries, IsSendable l.1 l.2

instance (r : Request) : Decidable r.IsFillable := inferInstanceAs (Decidable (∀ _ ∈ _, _))

instance (r : Request) : Decidable r.HasSendableHeaders :=
  inferInstanceAs (Decidable (∀ _ ∈ _, _))

variable {base : Url} {r : Request}

/-- A path that cannot be filled in is reported as one with a group without a value, or with a
value that leads to another path. -/
theorem expand_of_not_isFillable (h : ¬ r.IsFillable) :
    ∃ e, Template.expand r.template r.pathParams = .error e ∧
      ((∃ name, r.pathParams.get? name = none ∧ e = .missingPathParam name r.template) ∨
        ∃ name value, r.pathParams.get? name = some value ∧
          e = .invalidPathParam name value r.template) := by
  cases he : Template.expand r.template r.pathParams with
  | ok raws => exact absurd (Template.expand_eq_ok_iff.1 he).1 h
  | error e => exact ⟨e, rfl, Template.expand_eq_error he⟩

/-- The headers are read if all of them can be sent, and only then. -/
theorem exists_mapM_readHeader_iff :
    (∃ ls, r.headerParams.entries.mapM (fun l => readHeader l.1 l.2) = .ok ls) ↔
      r.HasSendableHeaders := by
  rw [exists_mapM_eq_ok_iff]
  exact forall₂_congr fun _ _ => exists_readHeader_eq_ok_iff

theorem exists_headers_eq_ok (h : r.HasSendableHeaders) : ∃ hs, r.headers = .ok hs := by
  obtain ⟨lines, hlines⟩ := exists_mapM_readHeader_iff.2 h
  refine ⟨Headers.empty.setAll ⟨lines⟩, ?_⟩
  rw [headers, hlines]
  rfl

/-- Of the headers that cannot be sent the one with the least spelling is reported. -/
theorem headers_eq_error_iff {e : Failure} :
    r.headers = .error e ↔
      ∃ l ∈ r.headerParams.entries,
        (∀ l' ∈ r.headerParams.entries, l'.1 < l.1 → IsSendable l'.1 l'.2) ∧
          readHeader l.1 l.2 = .error e := by
  have hmapM : r.headers = .error e ↔
      r.headerParams.entries.mapM (fun l => readHeader l.1 l.2) = .error e := by
    rw [headers, bind_eq_error_iff]
    exact or_iff_left fun ⟨_, _, h⟩ => by cases h
  have hsorted := r.headerParams.sorted
  rw [hmapM, mapM_eq_error_iff]
  constructor
  · rintro ⟨before, l, after, hentries, hbefore, he⟩
    rw [hentries] at hsorted ⊢
    refine ⟨l, by simp, fun l' hl' hless => ?_, he⟩
    -- Nothing less than the entry stands after it.
    obtain hl' | hl' := List.mem_append.1 hl'
    · exact exists_readHeader_eq_ok_iff.1 (hbefore l' hl')
    · obtain rfl | hl' := List.mem_cons.1 hl'
      · exact absurd hless (lt_irrefl _)
      · have hafter := (List.pairwise_cons.1 (List.pairwise_append.1 hsorted).2.1).1 l' hl'
        exact absurd hless hafter.asymm
  · rintro ⟨l, hl, hfirst, he⟩
    obtain ⟨before, after, hentries⟩ := List.append_of_mem hl
    refine ⟨before, l, after, hentries, fun l' hl' => ?_, he⟩
    rw [hentries] at hsorted hfirst
    have hless := (List.pairwise_append.1 hsorted).2.2 l' hl' l List.mem_cons_self
    exact exists_readHeader_eq_ok_iff.2 (hfirst l' (List.mem_append_left _ hl') hless)

/-- Where a header cannot be sent, one such is reported under its name. -/
theorem headers_of_not_hasSendableHeaders (h : ¬ r.HasSendableHeaders) :
    ∃ l ∈ r.headerParams.entries, ¬ IsSendable l.1 l.2 ∧ ∃ fault : Fault,
      r.headers = .error (.invalidHeader l.1 fault.message) := by
  cases hheaders : r.headers with
  | ok hs =>
    obtain ⟨lines, hlines, -⟩ := bind_eq_ok_iff.1 hheaders
    exact absurd (exists_mapM_readHeader_iff.1 ⟨lines, hlines⟩) h
  | error e =>
    obtain ⟨l, hl, -, he⟩ := headers_eq_error_iff.1 hheaders
    obtain ⟨hbad, fault, rfl⟩ := of_readHeader_eq_error he
    exact ⟨l, hl, hbad, fault, rfl⟩

/-! ## What is reported -/

/-- The failures that are reported of a request with a template before it is sent. -/
inductive Fault (template : String) : Failure → Prop
  | missing (name : String) : Fault template (.missingPathParam name template)
  | misleading (name value : String) : Fault template (.invalidPathParam name value template)
  | header (name : String) (fault : Header.Fault) :
    Fault template (.invalidHeader name fault.message)
  | body (e : Json.ReadError) : Fault template (.unencodable e)

theorem Fault.isRetryable_eq_false {template : String} {e : Failure} (h : Fault template e) :
    e.isRetryable = false := by
  cases h <;> rfl

/-- A fault of a request is never one of the client. -/
theorem Fault.ne_config {template : String} {e : Failure} (h : Fault template e)
    (config : ConfigError) : e ≠ .config config := by
  cases h <;> exact fun h => by cases h

theorem prepare_of_expand_eq_error {e : Failure}
    (h : Template.expand r.template r.pathParams = .error e) : r.prepare base = .error e := by
  rw [prepare, url, h]
  rfl

section

variable (hbase : ∃ path, base.path? = some path)

include hbase

theorem exists_url_eq_ok (h : r.IsFillable) : ∃ u, r.url base = .ok u := by
  obtain ⟨path, hpath⟩ := hbase
  exact ⟨_, url_eq_ok_iff.2 ⟨h, path, hpath, rfl⟩⟩

theorem prepare_of_headers_eq_error {e : Failure} (hpath : r.IsFillable)
    (h : r.headers = .error e) : r.prepare base = .error e := by
  obtain ⟨u, hu⟩ := exists_url_eq_ok hbase hpath
  rw [prepare, hu, h]
  rfl

theorem prepare_of_body_eq_error {e : Json.ReadError} (hpath : r.IsFillable)
    (hheaders : r.HasSendableHeaders) (h : r.body = some (.error e)) :
    r.prepare base = .error (.unencodable e) := by
  obtain ⟨u, hu⟩ := exists_url_eq_ok hbase hpath
  obtain ⟨hs, hhs⟩ := exists_headers_eq_ok hheaders
  rw [prepare, hu, hhs, bodyText, h]
  rfl

/-- A request without a fault can be sent. -/
theorem exists_prepare_eq_ok (hpath : r.IsFillable) (hheaders : r.HasSendableHeaders)
    (hbody : ∀ e, r.body ≠ some (.error e)) : ∃ p, r.prepare base = .ok p := by
  obtain ⟨u, hu⟩ := exists_url_eq_ok hbase hpath
  obtain ⟨hs, hhs⟩ := exists_headers_eq_ok hheaders
  have hb : ∃ b, r.bodyText = .ok b := by
    unfold bodyText
    match h : r.body with
    | none => exact ⟨_, rfl⟩
    | some (.ok t) => exact ⟨_, rfl⟩
    | some (.error e) => exact absurd h (hbody e)
  obtain ⟨b, hb⟩ := hb
  exact ⟨⟨r.method, u, hs, b⟩, prepare_eq_ok_iff.2 ⟨rfl, hu, hhs, hb⟩⟩

/-- A request that cannot be sent is reported with a fault of its own. -/
theorem fault_of_prepare_eq_error {e : Failure} (h : r.prepare base = .error e) :
    Fault r.template e := by
  by_cases hpath : r.IsFillable
  · by_cases hheaders : r.HasSendableHeaders
    · by_cases hbody : ∃ e', r.body = some (.error e')
      · obtain ⟨e', he'⟩ := hbody
        rw [prepare_of_body_eq_error hbase hpath hheaders he'] at h
        cases h
        exact .body e'
      · obtain ⟨p, hp⟩ := exists_prepare_eq_ok hbase hpath hheaders (not_exists.1 hbody)
        rw [hp] at h
        cases h
    · obtain ⟨l, -, -, fault, he⟩ := headers_of_not_hasSendableHeaders hheaders
      rw [prepare_of_headers_eq_error hbase hpath he] at h
      cases h
      exact .header l.1 fault
  · obtain ⟨e', he', hkind⟩ := expand_of_not_isFillable hpath
    rw [prepare_of_expand_eq_error he'] at h
    cases h
    rcases hkind with ⟨name, -, rfl⟩ | ⟨name, value, -, rfl⟩
    · exact .missing name
    · exact .misleading name value

end

end Request

end WebhookClient
