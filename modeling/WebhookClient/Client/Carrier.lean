import WebhookClient.Header
import WebhookClient.Method
import WebhookClient.Text.Decimal
import WebhookClient.Url.Basic

/-!
# Carriers

A carrier takes requests to the server; the caller of a client may bring one of their own. It
frames a request by headers of its own: for which host it is, how long its body is, and how that is
divided. Where a request has no header of a name it may add one, such as a default header that it
was made with. All other headers leave as they are.
-/

set_option autoImplicit false

namespace WebhookClient

/-! ## Requests as they are sent -/

/-- A request as it is sent. -/
structure Sent where
  method : Method
  url : Url
  headers : Headers
  body : Option String
deriving DecidableEq

namespace Sent

theorem isValue_digits (n : Nat) :
    Header.isValue (String.ofList (Decimal.digits n)).toList = true := by
  rw [String.toList_ofList]
  refine List.all_eq_true.2 fun c hc => ?_
  have h := Decimal.isDigit_of_mem_digits hc
  have h0 : 48 ≤ c.toNat ∧ c.toNat ≤ 57 := by
    simp only [Char.isDigit, Bool.and_eq_true, decide_eq_true_eq] at h
    exact ⟨h.1, h.2⟩
  simp only [Header.isValueChar, Bool.or_eq_true, Bool.and_eq_true, decide_eq_true_eq]
  exact .inr ⟨by omega, by omega⟩

/-- A number as the value of a header. -/
def number (n : Nat) : HeaderValue := ⟨Decimal.text n, isValue_digits n⟩

end Sent

/-! ## Adding headers -/

namespace Headers

variable {h : Headers} {name other : HeaderName} {value : HeaderValue}

/-- Puts a line only where there is none of its name. -/
def fill (name : HeaderName) (value : HeaderValue) (h : Headers) : Headers :=
  if h.get name = [] then h.add name value else h

/-- Fills in the lines of others one by one. -/
def fillAll (h others : Headers) : Headers :=
  others.lines.foldl (fun h l => h.fill l.1 l.2) h

/-- Drops all lines of a name. -/
def drop (name : HeaderName) (h : Headers) : Headers := ⟨h.lines.filter (·.1 ≠ name)⟩

theorem get_fill_self :
    (h.fill name value).get name = if h.get name = [] then [value] else h.get name := by
  unfold fill
  split
  · next hvacant => rw [get_add_self, hvacant, List.nil_append]
  · rfl

theorem get_fill_of_ne (hn : other ≠ name) : (h.fill name value).get other = h.get other := by
  unfold fill
  split
  · exact get_add_of_ne hn
  · rfl

theorem get_drop_of_ne (hn : other ≠ name) : (h.drop name).get other = h.get other := by
  have : ∀ a : HeaderName × HeaderValue, (decide (a.1 = other) && !decide (a.1 = name)) =
      decide (a.1 = other) := by
    intro a
    by_cases ha : a.1 = other
    · simp [ha, hn]
    · simp [ha]
  simp [get, drop, List.filter_filter, this]

/-- A name without lines gets the first of the others under it. -/
theorem get_fillAll (h others : Headers) (name : HeaderName) :
    (h.fillAll others).get name =
      if h.get name = [] then (others.get name).head?.toList else h.get name := by
  obtain ⟨lines⟩ := others
  induction lines generalizing h with
  | nil =>
    show h.get name = _
    split
    · next hvacant => exact hvacant
    · rfl
  | cons l lines ih =>
    have hstep : h.fillAll ⟨l :: lines⟩ = (h.fill l.1 l.2).fillAll ⟨lines⟩ := rfl
    rw [hstep, ih]
    by_cases hname : l.1 = name
    · -- The first of the others is taken, and then the name is no longer without lines.
      have hothers : (Headers.mk (l :: lines)).get name = l.2 :: (Headers.mk lines).get name := by
        simp [get, hname]
      rw [hothers, ← hname, get_fill_self]
      by_cases hvacant : h.get l.1 = [] <;> simp [hvacant]
    · have hothers : (Headers.mk (l :: lines)).get name = (Headers.mk lines).get name := by
        simp [get, hname]
      rw [hothers, get_fill_of_ne (Ne.symm hname)]

end Headers

/-! ## Carriers -/

namespace Carrier

def hostName : HeaderName := ⟨"host", by decide⟩

def lengthName : HeaderName := ⟨"content-length", by decide⟩

def encodingName : HeaderName := ⟨"transfer-encoding", by decide⟩

def acceptName : HeaderName := ⟨"accept", by decide⟩

/-- The names of the headers by which a carrier frames requests. -/
def framingNames : List HeaderName := [hostName, lengthName, encodingName]

end Carrier

/-- What takes requests to the server. -/
structure Carrier where
  /-- What it adds to a request that has no header of a name. -/
  added : Sent → HeaderName → Option HeaderValue
  /-- The headers with which a request leaves. -/
  carry : Sent → Headers
  get_carry : ∀ (a : Sent) (name : HeaderName), name ∉ Carrier.framingNames →
    (carry a).get name =
      if a.headers.get name = [] then (added a name).toList else a.headers.get name

namespace Carrier

/-- The host of a URL as it is named in a header. -/
def hostText (u : Url) : String :=
  String.ofList (match u.host with
    | some h => u.renderHost h
    | none => [])

/-- The headers of a request with those that frame it: the host and the length of the body where
they are missing. A body that is divided has no length, and a missing one is not divided. -/
def frame (a : Sent) (h : Headers) : Headers :=
  let measured := match a.body with
    | some text =>
      if h.get encodingName = [] then h.fill lengthName (Sent.number text.utf8ByteSize)
      else h.drop lengthName
    | none => h.drop encodingName
  match HeaderValue.ofText (hostText a.url) with
  | .ok host => measured.fill hostName host
  | .error _ => measured

theorem get_frame {a : Sent} {h : Headers} {name : HeaderName} (hname : name ∉ framingNames) :
    (frame a h).get name = h.get name := by
  have hne : name ≠ hostName ∧ name ≠ lengthName ∧ name ≠ encodingName := by
    simpa [framingNames] using hname
  have hmeasured : ∀ measured : Headers, measured.get name = h.get name →
      (match HeaderValue.ofText (hostText a.url) with
        | .ok host => measured.fill hostName host
        | .error _ => measured).get name = h.get name := by
    intro measured hsame
    split
    · rw [Headers.get_fill_of_ne hne.1, hsame]
    · exact hsame
  refine hmeasured _ ?_
  split
  · split
    · exact Headers.get_fill_of_ne hne.2.1
    · exact Headers.get_drop_of_ne hne.2.1
  · exact Headers.get_drop_of_ne hne.2.2

/-- The types of answers that are accepted unless something else is said: all. -/
def acceptAll : HeaderValue := ⟨"*/*", by decide⟩

/-- What a carrier that is made with default headers holds: the last of each name, and that all
types of answers are accepted. -/
def held (defaults : Headers) : Headers := (Headers.mk [(acceptName, acceptAll)]).setAll defaults

/-- A carrier with default headers. What it holds is added where a request has none of the name. -/
def ofDefaults (defaults : Headers) : Carrier where
  added _ name := ((held defaults).get name).head?
  carry a := frame a (a.headers.fillAll (held defaults))
  get_carry a name hname := by
    rw [get_frame hname, Headers.get_fillAll]

/-- The carrier of a client whose caller brings none. -/
def standard : Carrier := ofDefaults .empty

end Carrier

end WebhookClient
