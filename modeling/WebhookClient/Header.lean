/-!
# Headers

A header line is a name and a value. Names are told apart without regard to case, so a
`HeaderName` is kept in lower case; what cannot be sent is neither a `HeaderName` nor a
`HeaderValue`. `Headers` are lines in the order in which they are sent: `set` puts a line in
place of all lines of its name, `add` puts one after them.
-/

set_option autoImplicit false

namespace WebhookClient

namespace Header

/-! ## What can be sent -/

/-- The characters of names; capital letters count as small ones. -/
def isNameChar (c : Char) : Bool :=
  c.isLower || c.isDigit ||
    ['!', '#', '$', '%', '&', '\x27', '*', '+', '-', '.', '^', '_', '\x60', '|', '~'].contains c

/-- A name is not empty and has at most 65535 characters. -/
def isName (cs : List Char) : Bool :=
  !cs.isEmpty && cs.length ≤ 65535 && cs.all isNameChar

/-- The characters of values: tabs and all that is not a control. -/
def isValueChar (c : Char) : Bool := c = '\t' || (0x20 ≤ c.toNat && c.toNat ≠ 0x7F)

def isValue (cs : List Char) : Bool := cs.all isValueChar

/-- Why a header cannot be sent. -/
inductive Fault where
  | name
  | value
deriving DecidableEq, Repr

/-- The wording of a fault. -/
def Fault.message : Fault → String
  | .name => "invalid HTTP header name"
  | .value => "failed to parse header value"

end Header

open Header

/-- The name of a header, in lower case. -/
structure HeaderName where
  text : String
  valid : isName text.toList = true
deriving DecidableEq

/-- The value of a header. -/
structure HeaderValue where
  text : String
  valid : isValue text.toList = true
deriving DecidableEq

/-- Reads the name of a header. -/
def HeaderName.ofText (s : String) : Except Fault HeaderName :=
  if h : isName (String.ofList (s.toList.map Char.toLower)).toList then
    .ok ⟨String.ofList (s.toList.map Char.toLower), h⟩
  else .error .name

/-- Reads the value of a header. -/
def HeaderValue.ofText (s : String) : Except Fault HeaderValue :=
  if h : isValue s.toList then .ok ⟨s, h⟩ else .error .value

theorem HeaderValue.text_of_ofText {s : String} {v : HeaderValue}
    (h : HeaderValue.ofText s = .ok v) : v.text = s := by
  unfold HeaderValue.ofText at h
  split at h
  · cases h
    rfl
  · cases h

/-! ## Header lines -/

/-- Header lines in the order in which they are sent. -/
structure Headers where
  lines : List (HeaderName × HeaderValue)
deriving DecidableEq

namespace Headers

/-- No header lines. -/
def empty : Headers := ⟨[]⟩

/-- The values under a name, in order. -/
def get (name : HeaderName) (h : Headers) : List HeaderValue :=
  (h.lines.filter (·.1 = name)).map (·.2)

/-- Puts a line in place of all lines of its name. -/
def set (name : HeaderName) (value : HeaderValue) (h : Headers) : Headers :=
  ⟨h.lines.filter (·.1 ≠ name) ++ [(name, value)]⟩

/-- Puts a line after those of its name. -/
def add (name : HeaderName) (value : HeaderValue) (h : Headers) : Headers :=
  ⟨h.lines ++ [(name, value)]⟩

/-- Sets the lines of others one by one. -/
def setAll (h others : Headers) : Headers :=
  others.lines.foldl (fun h l => h.set l.1 l.2) h

variable {h : Headers} {name other : HeaderName} {value : HeaderValue}

theorem get_set_self : (h.set name value).get name = [value] := by
  simp [get, set, List.filter_append, List.filter_filter]

theorem get_set_of_ne (hn : other ≠ name) : (h.set name value).get other = h.get other := by
  have : ∀ a : HeaderName × HeaderValue, (decide (a.1 = other) && !decide (a.1 = name)) =
      decide (a.1 = other) := by
    intro a
    by_cases ha : a.1 = other
    · simp [ha, hn]
    · simp [ha]
  simp [get, set, List.filter_append, List.filter_filter, this, Ne.symm hn]

theorem get_add_self : (h.add name value).get name = h.get name ++ [value] := by
  simp [get, add, List.filter_append]

theorem get_add_of_ne (hn : other ≠ name) : (h.add name value).get other = h.get other := by
  simp [get, add, List.filter_append, Ne.symm hn]

end Headers

end WebhookClient
