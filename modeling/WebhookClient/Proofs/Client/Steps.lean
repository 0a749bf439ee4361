import Mathlib
import WebhookClient.Proofs.Client.Build
import WebhookClient.Proofs.Except
import WebhookClient.Proofs.Header.Given

/-!
# Settings step by step

Settings start from a token and options; each step after that sets one thing, or adds a default
header. What the default headers are after all steps (`ofSteps_eq_ok`), and what the client that is
made of them sends under each name (`map_text_get_headers_of_build`).
-/

set_option autoImplicit false

namespace WebhookClient

open Header

namespace Settings

/-! ## One step -/

/-- A step in which settings are put together. -/
inductive Step where
  | serverUrl (url : String)
  | carrier (carrier : Carrier)
  | timeout (time : Nat)
  | retrySchedule (pauses : List Nat)
  | debug (on : Bool)
  | defaultHeader (name value : String)

namespace Step

/-- The settings after a step. Only a default header may be refused. -/
def apply (step : Step) (s : Settings) : Except ConfigError Settings :=
  match step with
  | .serverUrl url => .ok { s with serverUrl := some url }
  | .carrier own => .ok { s with carrier := some own }
  | .timeout time => .ok { s with timeout := time }
  | .retrySchedule pauses => .ok { s with retrySchedule := pauses }
  | .debug on => .ok { s with debug := on }
  | .defaultHeader name value => s.addDefaultHeader name value

/-- The default header that a step gives, as it is spelt. -/
def header? : Step → Option (String × String)
  | .defaultHeader name value => some (name, value)
  | _ => none

end Step

variable {s s' : Settings}

theorem addDefaultHeader_eq_ok_iff {name value : String} :
    s.addDefaultHeader name value = .ok s' ↔
      ∃ l, IsRead (name, value) l ∧
        { s with defaultHeaders := s.defaultHeaders.set l.1 l.2 } = s' := by
  rw [addDefaultHeader, bind_eq_ok_iff]
  constructor
  · rintro ⟨n, hn, h⟩
    obtain ⟨v, hv, h⟩ := bind_eq_ok_iff.1 h
    exact ⟨(n, v), ⟨mapError_eq_ok_iff.1 hn, mapError_eq_ok_iff.1 hv⟩, Except.ok.inj h⟩
  · rintro ⟨⟨n, v⟩, ⟨hn, hv⟩, rfl⟩
    exact ⟨n, mapError_eq_ok_iff.2 hn, bind_eq_ok_iff.2 ⟨v, mapError_eq_ok_iff.2 hv, rfl⟩⟩

/-- A step sets the default header that it gives, and leaves the token alone. -/
theorem Step.apply_eq_ok {step : Step} (h : step.apply s = .ok s') :
    s'.token = s.token ∧
      ∃ lines, List.Forall₂ IsRead step.header?.toList lines ∧
        s'.defaultHeaders = s.defaultHeaders.setAll ⟨lines⟩ := by
  cases step with
  | defaultHeader name value =>
    obtain ⟨l, hread, rfl⟩ := addDefaultHeader_eq_ok_iff.1 h
    exact ⟨rfl, [l], .cons hread .nil, rfl⟩
  | _ =>
    cases h
    exact ⟨rfl, [], .nil, rfl⟩

/-! ## All steps -/

/-- The settings that steps put together. -/
def ofSteps (token : String) (o : Options) (steps : List Step) : Except ConfigError Settings :=
  steps.foldlM (fun s step => step.apply s) (ofOptions token o)

/-- The default headers that steps give, in the order of the steps. -/
def givenHeaders (steps : List Step) : List (String × String) := steps.filterMap Step.header?

theorem foldlM_eq_ok {steps : List Step}
    (h : steps.foldlM (fun s step => step.apply s) s = .ok s') :
    s'.token = s.token ∧
      ∃ lines, List.Forall₂ IsRead (givenHeaders steps) lines ∧
        s'.defaultHeaders = s.defaultHeaders.setAll ⟨lines⟩ := by
  induction steps generalizing s with
  | nil =>
    cases h
    exact ⟨rfl, [], .nil, rfl⟩
  | cons step steps ih =>
    rw [List.foldlM_cons] at h
    obtain ⟨s₁, hstep, hrest⟩ := bind_eq_ok_iff.1 h
    obtain ⟨htoken, lines, hread, hset⟩ := step.apply_eq_ok hstep
    obtain ⟨htoken', lines', hread', hset'⟩ := ih hrest
    have hgiven : givenHeaders (step :: steps) = step.header?.toList ++ givenHeaders steps := by
      rw [givenHeaders, List.filterMap_cons]
      cases step.header? <;> rfl
    refine ⟨htoken'.trans htoken, lines ++ lines', ?_, ?_⟩
    · rw [hgiven]
      exact List.rel_append hread hread'
    · rw [hset', hset, Headers.setAll_setAll]

/-- The default headers are those that the steps give, set one after the other. -/
theorem ofSteps_eq_ok {token : String} {o : Options} {steps : List Step}
    (h : ofSteps token o steps = .ok s) :
    s.token = token ∧
      ∃ lines, List.Forall₂ IsRead (givenHeaders steps) lines ∧
        s.defaultHeaders = Headers.empty.setAll ⟨lines⟩ :=
  foldlM_eq_ok h

end Settings

namespace Client

/-! ## The client that is made -/

variable {token : String} {o : Options} {steps : List Settings.Step} {s : Settings} {c : Client}
  {idna : Url.Idna}

theorem headers_of_build (h : build idna s = .ok c) :
    ∃ auth, authorization s.token = .ok auth ∧ c.headers = baseHeaders auth s.defaultHeaders :=
  (fields_of_build h).2.1

/-- What a client sends of itself under a name. -/
def builtIn (token : String) (name : HeaderName) : Option String :=
  if name = authorizationName then some ("Bearer " ++ token)
  else if name = userAgentName then some userAgent.text
  else none

theorem map_text_get_baseHeaders {auth : HeaderValue} (hauth : authorization token = .ok auth)
    (name : HeaderName) :
    ((baseHeaders auth .empty).get name).map (·.text) = (builtIn token name).toList := by
  show (((Headers.empty.set authorizationName auth).set userAgentName userAgent).get name).map _ = _
  unfold builtIn
  by_cases hagent : name = userAgentName
  · rw [hagent, Headers.get_set_self]
    rfl
  · rw [Headers.get_set_of_ne hagent, if_neg hagent]
    by_cases hname : name = authorizationName
    · rw [hname, Headers.get_set_self, if_pos rfl, List.map_singleton,
        HeaderValue.text_of_ofText hauth]
      rfl
    · rw [Headers.get_set_of_ne hname, if_neg hname]
      rfl

/-- Under each name a client sends the default header that is given last for it, or else what it
sends of itself. -/
theorem map_text_get_headers_of_build (hsteps : Settings.ofSteps token o steps = .ok s)
    (hc : build idna s = .ok c) (name : HeaderName) :
    (c.headers.get name).map (·.text) =
      ((lastFor name (Settings.givenHeaders steps)).or (builtIn token name)).toList := by
  obtain ⟨rfl, lines, hread, hdefaults⟩ := Settings.ofSteps_eq_ok hsteps
  obtain ⟨auth, hauth, hheaders⟩ := headers_of_build hc
  have hbase : baseHeaders auth s.defaultHeaders =
      (baseHeaders auth .empty).setAll (Headers.empty.setAll ⟨lines⟩) := by
    rw [hdefaults]
    rfl
  rw [hheaders, hbase, Headers.get_setAll]
  exact Headers.map_text_elim_getLast? (map_text_get_setAll_empty hread name)
    (map_text_get_baseHeaders hauth name)

end Client

end WebhookClient
