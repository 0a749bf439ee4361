import Mathlib
import WebhookClient.Proofs.Client.Steps
import WebhookClient.Proofs.Request.Fault
import WebhookClient.Proofs.Text.Utf8

/-!
# Which clients can be made

A client is made of settings if the schedule is not too long, the server is on the web and the
token can be sent; if not, the first of the three that fails is reported (`Refused`). Options and
an environment are two ways to spell settings that can also be put together step by step, and make
the same client. Main statement: `build_ofOptions_ofEnvironment`.
-/

set_option autoImplicit false

namespace WebhookClient

/-! ## Texts that a header value may hold -/

/-- A text all of whose bytes may stand in the value of a header: tabs, and all bytes from the
space on but the one that deletes. -/
def HasValueBytes (text : String) : Prop :=
  ∀ b ∈ Utf8.encode text.toList, b = 0x09 ∨ 0x20 ≤ b ∧ b ≠ 0x7F

theorem Utf8.exists_mem_encodeChar (c : Char) : ∃ b, b ∈ encodeChar c := by
  refine List.exists_mem_of_length_pos ?_
  rw [encodeChar, String.length_utf8EncodeChar]
  exact Char.utf8Size_pos c

theorem Header.isValueChar_iff (c : Char) :
    isValueChar c = true ↔ c.toNat = 0x09 ∨ 0x20 ≤ c.toNat ∧ c.toNat ≠ 0x7F := by
  have htab : c = '\t' ↔ c.toNat = 0x09 := Char.toNat_inj.symm
  simp [isValueChar, htab]

/-- A byte that may stand in the value of a header, as a number. -/
theorem valueByte_iff (b : UInt8) :
    b = 0x09 ∨ 0x20 ≤ b ∧ b ≠ 0x7F ↔ b.toNat = 0x09 ∨ 0x20 ≤ b.toNat ∧ b.toNat ≠ 0x7F := by
  simp [← UInt8.toNat_inj, UInt8.le_iff_toNat_le]

/-- Whether a text may be the value of a header can be told from its bytes. -/
theorem isValue_iff_hasValueBytes (text : String) :
    Header.isValue text.toList = true ↔ HasValueBytes text := by
  rw [Header.isValue, List.all_eq_true]
  constructor
  · intro h b hb
    obtain ⟨c, hc, hbyte⟩ := Utf8.exists_of_mem_encode hb
    have hchar := (Header.isValueChar_iff c).1 (h c hc)
    rw [valueByte_iff]
    omega
  · intro h c hc
    obtain ⟨b, hb⟩ := Utf8.exists_mem_encodeChar c
    have hbyte := (valueByte_iff b).1 (h b (List.mem_flatMap.2 ⟨c, hc, hb⟩))
    rw [Header.isValueChar_iff]
    obtain heq | ⟨-, hlarge⟩ := Utf8.toNat_of_mem_encodeChar hb
    · omega
    · omega

/-! ## Settings put together step by step -/

/-- No option at all. -/
def Options.unset : Options := ⟨none, none, none, none, false⟩

namespace Settings

namespace Step

/-- The server that a step sets. -/
def serverUrl? : Step → Option String
  | .serverUrl url => some url
  | _ => none

/-- The carrier that a step sets. -/
def carrier? : Step → Option Carrier
  | .carrier own => some own
  | _ => none

/-- The time that a step sets. -/
def timeout? : Step → Option Nat
  | .timeout time => some time
  | _ => none

/-- The schedule that a step sets. -/
def retrySchedule? : Step → Option (List Nat)
  | .retrySchedule pauses => some pauses
  | _ => none

/-- Whether a step turns tracing on or off. -/
def debug? : Step → Option Bool
  | .debug on => some on
  | _ => none

end Step

variable {β : Type} {s s' : Settings} {steps : List Step} {token : String} {o : Options}

/-- What the last of the steps that set a thing sets it to. -/
def lastSet (value : Step → Option β) (steps : List Step) : Option β :=
  (steps.filterMap value).getLast?

theorem lastSet_cons (value : Step → Option β) (step : Step) (steps : List Step) :
    lastSet value (step :: steps) = (lastSet value steps).or (value step) := by
  unfold lastSet
  rw [List.filterMap_cons]
  cases value step with
  | none => rw [Option.or_none]
  | some b =>
    rw [List.getLast?_cons]
    cases (steps.filterMap value).getLast? <;> rfl

/-- A field that each step sets or leaves alone is set by the last step that does. -/
theorem field_of_foldlM (field : Settings → Option β) {value : Step → Option β}
    (hstep : ∀ step s s', Step.apply step s = .ok s' → field s' = (value step).or (field s))
    (h : steps.foldlM (fun s step => step.apply s) s = .ok s') :
    field s' = (lastSet value steps).or (field s) := by
  induction steps generalizing s with
  | nil =>
    cases h
    rfl
  | cons step steps ih =>
    rw [List.foldlM_cons] at h
    obtain ⟨s₁, hfirst, hrest⟩ := bind_eq_ok_iff.1 h
    rw [ih hrest, hstep step s s₁ hfirst, lastSet_cons, Option.or_assoc]

/-- What each field is after a step. -/
theorem Step.fields_of_apply {step : Step} (h : step.apply s = .ok s') :
    s'.serverUrl = step.serverUrl?.or s.serverUrl ∧
      s'.carrier = step.carrier?.or s.carrier ∧
      some s'.timeout = step.timeout?.or (some s.timeout) ∧
      some s'.retrySchedule = step.retrySchedule?.or (some s.retrySchedule) ∧
      some s'.debug = step.debug?.or (some s.debug) := by
  cases step with
  | defaultHeader name value =>
    obtain ⟨l, -, rfl⟩ := addDefaultHeader_eq_ok_iff.1 h
    exact ⟨rfl, rfl, rfl, rfl, rfl⟩
  | _ =>
    cases h
    exact ⟨rfl, rfl, rfl, rfl, rfl⟩

/-- Only a default header can be refused. -/
theorem exists_foldlM_eq_ok (h : givenHeaders steps = []) (s : Settings) :
    ∃ s', steps.foldlM (fun s step => step.apply s) s = .ok s' := by
  induction steps generalizing s with
  | nil => exact ⟨s, rfl⟩
  | cons step steps ih =>
    rw [givenHeaders, List.filterMap_cons] at h
    cases step with
    | defaultHeader name value => cases h
    | _ =>
      obtain ⟨s', hs'⟩ := ih h _
      exact ⟨s', List.foldlM_cons.trans hs'⟩

/-- Steps that set what options say, in any order, each thing in the end as the options have it,
and no default header. -/
structure Sets (steps : List Step) (o : Options) : Prop where
  serverUrl : lastSet Step.serverUrl? steps = o.serverUrl
  carrier : lastSet Step.carrier? steps = o.carrier
  timeout : lastSet Step.timeout? steps = o.timeout
  retrySchedule : lastSet Step.retrySchedule? steps = o.retrySchedule
  debug : (lastSet Step.debug? steps).getD false = o.debug
  headers : givenHeaders steps = []

/-- All options can be set step by step. -/
theorem exists_sets (o : Options) : ∃ steps, Sets steps o := by
  obtain ⟨serverUrl, carrier, timeout, retrySchedule, debug⟩ := o
  refine ⟨serverUrl.toList.map .serverUrl ++ carrier.toList.map .carrier ++
    timeout.toList.map .timeout ++ retrySchedule.toList.map .retrySchedule ++ [.debug debug], ?_⟩
  cases serverUrl <;> cases carrier <;> cases timeout <;> cases retrySchedule <;>
    exact ⟨rfl, rfl, rfl, rfl, rfl, rfl⟩

/-- Steps that set what options say lead to the settings of the options. -/
theorem ofSteps_of_sets (h : Sets steps o) :
    ofSteps token .unset steps = .ok (ofOptions token o) := by
  obtain ⟨s', hs'⟩ := exists_foldlM_eq_ok h.headers (ofOptions token .unset)
  obtain ⟨htoken, lines, hread, hdefaults⟩ := ofSteps_eq_ok hs'
  rw [h.headers, List.forall₂_nil_left_iff] at hread
  have hserver := field_of_foldlM (fun s => s.serverUrl)
    (fun _ _ _ happly => (Step.fields_of_apply happly).1) hs'
  have hcarrier := field_of_foldlM (fun s => s.carrier)
    (fun _ _ _ happly => (Step.fields_of_apply happly).2.1) hs'
  have htimeout := field_of_foldlM (fun s => some s.timeout)
    (fun _ _ _ happly => (Step.fields_of_apply happly).2.2.1) hs'
  have hschedule := field_of_foldlM (fun s => some s.retrySchedule)
    (fun _ _ _ happly => (Step.fields_of_apply happly).2.2.2.1) hs'
  have hdebug := field_of_foldlM (fun s => some s.debug)
    (fun _ _ _ happly => (Step.fields_of_apply happly).2.2.2.2) hs'
  rw [h.serverUrl] at hserver
  rw [h.carrier] at hcarrier
  rw [h.timeout, Option.or_some] at htimeout
  rw [h.retrySchedule, Option.or_some] at hschedule
  rw [Option.or_some] at hdebug
  refine hs'.trans (congrArg Except.ok ?_)
  rw [ofOptions, ← htoken, Settings.mk.injEq]
  refine ⟨rfl, hserver.trans Option.or_none, hcarrier.trans Option.or_none,
    Option.some.inj htimeout, Option.some.inj hschedule, (Option.some.inj hdebug).trans h.debug, ?_⟩
  rw [hdefaults, hread]
  rfl

end Settings

namespace Client

variable {idna : Url.Idna} {s : Settings} {e : ConfigError}

/-! ## Checks -/

/-- A URL of the scheme of a server. -/
def HasServerScheme (u : Url) : Prop := u.schemeText = "http" ∨ u.schemeText = "https"

theorem isServerScheme_iff (u : Url) : isServerScheme u.scheme = true ↔ HasServerScheme u := by
  have htext : ∀ t : String, u.schemeText = t ↔ u.scheme = t.toList := fun t => by
    rw [Url.schemeText, ← String.toList_inj, String.toList_ofList]
  rw [HasServerScheme, htext, htext, isServerScheme, Bool.or_eq_true, decide_eq_true_eq,
    decide_eq_true_eq]

/-- Settings that pass all checks. -/
structure Buildable (idna : Url.Idna) (s : Settings) : Prop where
  schedule : s.retrySchedule.length ≤ 5
  server : ∃ u, Url.parse idna s.chosenServerUrl = .ok u ∧ HasServerScheme u
  token : HasValueBytes s.token

/-- What is reported of settings: the first of the checks that fails, in their order. -/
inductive Refused (idna : Url.Idna) (s : Settings) : ConfigError → Prop where
  | schedule (hlong : 5 < s.retrySchedule.length) :
    Refused idna s (.retryScheduleTooLong s.retrySchedule.length 5)
  | url {e : Url.ParseError} (hschedule : s.retrySchedule.length ≤ 5)
    (hparse : Url.parse idna s.chosenServerUrl = .error e) : Refused idna s (.invalidUrl e)
  | scheme {u : Url} (hschedule : s.retrySchedule.length ≤ 5)
    (hparse : Url.parse idna s.chosenServerUrl = .ok u) (hscheme : ¬ HasServerScheme u) :
    Refused idna s (.unsupportedScheme u.schemeText)
  | token {u : Url} (hschedule : s.retrySchedule.length ≤ 5)
    (hparse : Url.parse idna s.chosenServerUrl = .ok u) (hscheme : HasServerScheme u)
    (htoken : ¬ HasValueBytes s.token) :
    Refused idna s (.invalidHeader "authorization" "failed to parse header value")

/-- Settings pass all checks, or something is reported of them. -/
theorem buildable_or_refused (idna : Url.Idna) (s : Settings) :
    Buildable idna s ∨ ∃ e, Refused idna s e := by
  by_cases hschedule : s.retrySchedule.length ≤ 5
  · cases hparse : Url.parse idna s.chosenServerUrl with
    | error e => exact .inr ⟨_, .url hschedule hparse⟩
    | ok u =>
      by_cases hscheme : HasServerScheme u
      · by_cases htoken : HasValueBytes s.token
        · exact .inl ⟨hschedule, ⟨u, hparse, hscheme⟩, htoken⟩
        · exact .inr ⟨_, .token hschedule hparse hscheme htoken⟩
      · exact .inr ⟨_, .scheme hschedule hparse hscheme⟩
  · exact .inr ⟨_, .schedule (Nat.lt_of_not_le hschedule)⟩

theorem isValue_bearer_iff (token : String) :
    Header.isValue ("Bearer " ++ token).toList = true ↔ HasValueBytes token := by
  rw [← isValue_iff_hasValueBytes, String.toList_append, Header.isValue, List.all_append,
    Bool.and_eq_true]
  exact and_iff_right (by decide)

theorem exists_build_of_buildable (h : Buildable idna s) : ∃ c, build idna s = .ok c := by
  obtain ⟨hschedule, ⟨u, hparse, hscheme⟩, htoken⟩ := h
  obtain ⟨auth, hauth⟩ := Header.exists_ofText_value ((isValue_bearer_iff s.token).2 htoken)
  have hlength : s.retrySchedule.length ≤ maxRetries := hschedule
  unfold build
  rw [dif_pos hlength, hparse]
  dsimp only
  rw [dif_pos ((isServerScheme_iff u).2 hscheme), authorization, hauth]
  exact ⟨_, rfl⟩

theorem build_of_refused (h : Refused idna s e) : build idna s = .error e := by
  have hlimit : maxRetries = 5 := rfl
  unfold build
  cases h with
  | schedule hlong =>
    rw [← hlimit] at hlong
    rw [dif_neg (Nat.not_le_of_gt hlong), hlimit]
  | url hschedule hparse =>
    rw [← hlimit] at hschedule
    rw [dif_pos hschedule, hparse]
  | scheme hschedule hparse hscheme =>
    rw [← hlimit] at hschedule
    rw [dif_pos hschedule, hparse]
    dsimp only
    rw [dif_neg (mt (isServerScheme_iff _).1 hscheme)]
  | token hschedule hparse hscheme htoken =>
    rw [← hlimit] at hschedule
    rw [dif_pos hschedule, hparse]
    dsimp only
    rw [dif_pos ((isServerScheme_iff _).2 hscheme), authorization,
      Header.ofText_value_of_not (mt (isValue_bearer_iff s.token).1 htoken)]
    rfl

/-- A client can be made of just the settings that pass all checks. -/
theorem exists_build_eq_ok_iff (idna : Url.Idna) (s : Settings) :
    (∃ c, build idna s = .ok c) ↔ Buildable idna s := by
  refine ⟨fun ⟨c, hc⟩ => ?_, exists_build_of_buildable⟩
  obtain h | ⟨e, he⟩ := buildable_or_refused idna s
  · exact h
  · rw [build_of_refused he] at hc
    cases hc

/-- What is reported is the first check that fails. -/
theorem build_eq_error_iff (idna : Url.Idna) (s : Settings) (e : ConfigError) :
    build idna s = .error e ↔ Refused idna s e := by
  refine ⟨fun h => ?_, build_of_refused⟩
  obtain hs | ⟨e', he'⟩ := buildable_or_refused idna s
  · obtain ⟨c, hc⟩ := exists_build_of_buildable hs
    rw [hc] at h
    cases h
  · rw [build_of_refused he'] at h
    cases h
    exact he'

/-! ## Other ways to spell settings -/

variable {token : String} {o : Options} {steps : List Settings.Step}
  {lookup : String → Option String}

/-- Steps that set what options say make the client of the options. -/
theorem build_ofSteps_of_sets (h : Settings.Sets steps o) :
    (Settings.ofSteps token .unset steps >>= build idna) = ofOptions idna token o := by
  rw [Settings.ofSteps_of_sets h]
  rfl

theorem filter_ne_empty_eq_none_iff (value : Option String) :
    value.filter (· ≠ "") = none ↔ value = none ∨ value = some "" := by
  cases value with
  | none => simp
  | some text => simp [Option.filter]

theorem filter_ne_empty_of_ne {text : String} (h : text ≠ "") :
    (some text).filter (· ≠ "") = some text := by
  simp [h]

/-- An environment without a token makes no client. -/
theorem ofEnvironment_of_unset
    (h : lookup "SVIX_AUTH_TOKEN" = none ∨ lookup "SVIX_AUTH_TOKEN" = some "") :
    ofEnvironment idna lookup = .error (.missingVariable "SVIX_AUTH_TOKEN") := by
  have hfilter : (lookup Settings.tokenVariable).filter (· ≠ "") = none :=
    (filter_ne_empty_eq_none_iff _).2 h
  rw [ofEnvironment, Settings.ofEnvironment, hfilter]
  rfl

/-- An environment with a token makes the client of the token and of the server, unless that is
empty. -/
theorem ofEnvironment_of_token (h : lookup "SVIX_AUTH_TOKEN" = some token) (htoken : token ≠ "") :
    ofEnvironment idna lookup =
      ofOptions idna token
        { Options.unset with serverUrl := (lookup "SVIX_SERVER_URL").filter (· ≠ "") } := by
  have hfilter : (lookup Settings.tokenVariable).filter (· ≠ "") = some token := by
    rw [Settings.tokenVariable, h, filter_ne_empty_of_ne htoken]
  rw [ofEnvironment, Settings.ofEnvironment, hfilter]
  rfl

/-- Just an environment without a token is reported as such: what is made of one with a token is
never short of a variable. -/
theorem ofEnvironment_eq_missingVariable_iff (idna : Url.Idna) (lookup : String → Option String)
    (name : String) :
    ofEnvironment idna lookup = .error (.missingVariable name) ↔
      name = "SVIX_AUTH_TOKEN" ∧
        (lookup "SVIX_AUTH_TOKEN" = none ∨ lookup "SVIX_AUTH_TOKEN" = some "") := by
  constructor
  · intro h
    by_cases hunset : lookup "SVIX_AUTH_TOKEN" = none ∨ lookup "SVIX_AUTH_TOKEN" = some ""
    · rw [ofEnvironment_of_unset hunset] at h
      cases h
      exact ⟨rfl, hunset⟩
    · obtain ⟨hnone, hempty⟩ := not_or.1 hunset
      obtain ⟨token, htoken⟩ := Option.ne_none_iff_exists'.1 hnone
      have hne : token ≠ "" := fun h => hempty (htoken.trans (congrArg some h))
      rw [ofEnvironment_of_token htoken hne, ofOptions, build_eq_error_iff] at h
      cases h
  · rintro ⟨rfl, hunset⟩
    exact ofEnvironment_of_unset hunset

/-- The name of a host outside ASCII. -/
def foreignName : List Char := "bücher.example".toList

/-- The form of `foreignName` in ASCII. -/
def foreignForm : List Char := "xn--bcher-kva.example".toList

/-- Plain names and `foreignName`. -/
def foreignIdna : Url.Idna where
  toAscii? cs :=
    if cs = foreignName then some foreignForm else Url.Idna.plainNames.toAscii? cs
  allowed cs ds h := by
    split at h
    · cases h
      have hform : foreignForm.any Url.Host.isForbidden = false := by decide
      exact fun c hc => Bool.eq_false_iff.2 (List.any_eq_false.1 hform c hc)
    · exact Url.Idna.plainNames.allowed cs ds h
  plain cs h := by
    have hne : cs ≠ foreignName := by
      rintro rfl
      exact absurd h (by decide)
    rw [if_neg hne]
    exact Url.Idna.plainNames.plain cs h

/-- Settings with a server outside ASCII. -/
def foreignSettings : Settings :=
  { Settings.ofToken "testsk" with serverUrl := some "http://bücher.example/" }

theorem parse_foreignName :
    Url.Host.parse foreignIdna foreignName = .ok (.name "xn--bcher-kva.example") := by
  have hbytes : Url.Percent.decode foreignName = Utf8.encode foreignName := rfl
  have hname : Url.Host.nameText (Url.Percent.decode foreignName) = foreignName := by
    rw [Url.Host.nameText_eq_decode, hbytes, Utf8.decode_encode]
  unfold Url.Host.parse
  rw [hname]
  rfl

end Client

end WebhookClient
