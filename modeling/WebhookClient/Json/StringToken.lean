import WebhookClient.Json.Error

/-!
# JSON strings

A string is scanned into pieces, characters and 16-bit units, up to its closing quote or the
first thing that cannot stand in a string. Units are then paired into characters. A string whose
units do not pair can be skipped, but not read: `StringToken` keeps the two apart.
-/

set_option autoImplicit false

namespace WebhookClient.Json

/-- A place where a text is not JSON: what a reader of the value there reports, and what is
reported when the value is skipped. -/
structure Fault where
  reading : SyntaxError
  skipping : SyntaxError
deriving DecidableEq, Repr

/-- The fault that readers and skippers report alike. -/
def Fault.always (e : SyntaxError) : Fault := ⟨e, e⟩

/-! ## Scanning -/

/-- A piece of a string: a character, or a unit given by a hexadecimal escape. -/
inductive Piece where
  | char (c : Char)
  | unit (n : Nat)
deriving DecidableEq, Repr

/-- How the pieces of a string end. -/
inductive Ending where
  | closed
  /-- The text ends before the closing quote, or in an escape. -/
  | textEnds
  /-- A hexadecimal escape has a character that is no hexadecimal digit. -/
  | badUnit
  /-- A short escape that does not exist. -/
  | badEscape
  /-- A control character. -/
  | control
deriving DecidableEq, Repr

/-- The character of a short escape. -/
def shortEscape? : Char → Option Char
  | '"' => some '"'
  | '\\' => some '\\'
  | '/' => some '/'
  | 'b' => some '\x08'
  | 'f' => some '\x0c'
  | 'n' => some '\n'
  | 'r' => some '\r'
  | 't' => some '\t'
  | _ => none

/-- The value of a hexadecimal digit. -/
def hexValue? (c : Char) : Option Nat :=
  if c.isDigit then some (c.toNat - '0'.toNat)
  else if 'a' ≤ c ∧ c ≤ 'f' then some (c.toNat - 'a'.toNat + 10)
  else if 'A' ≤ c ∧ c ≤ 'F' then some (c.toNat - 'A'.toNat + 10)
  else none

/-- The value of four hexadecimal digits. -/
def unitValue? (a b c d : Char) : Option Nat := do
  some (((← hexValue? a) * 16 + (← hexValue? b)) * 256 + (← hexValue? c) * 16 + (← hexValue? d))

/-- The number of bytes of a text in UTF-8. -/
def utf8Length (cs : List Char) : Nat := cs.foldl (fun n c => n + c.utf8Size) 0

/-- The pieces of a string after its opening quote, how they end, and the text after them. An
escape of a unit takes four bytes: fewer are a text that ends in it. -/
def scan : List Char → List Piece × Ending × List Char
  | [] => ([], .textEnds, [])
  | '"' :: cs => ([], .closed, cs)
  | ['\\'] => ([], .textEnds, [])
  | '\\' :: 'u' :: a :: b :: c :: d :: cs =>
    match unitValue? a b c d with
    | some n =>
      let (ps, e, rest) := scan cs
      (.unit n :: ps, e, rest)
    | none => ([], .badUnit, [])
  | '\\' :: 'u' :: cs => ([], if utf8Length cs < 4 then .textEnds else .badUnit, [])
  | '\\' :: c :: cs =>
    match shortEscape? c with
    | some x =>
      let (ps, e, rest) := scan cs
      (.char x :: ps, e, rest)
    | none => ([], .badEscape, [])
  | c :: cs =>
    if c.toNat < 0x20 then ([], .control, [])
    else
      let (ps, e, rest) := scan cs
      (.char c :: ps, e, rest)

/-- Scanning a string never gives back more text than it was given. -/
theorem length_scan_le (cs : List Char) : (scan cs).2.2.length ≤ cs.length := by
  fun_induction scan cs <;> simp_all <;> omega

/-! ## Pairing units -/

/-- The first half of a pair. -/
def isHigh (n : Nat) : Bool := 0xD800 ≤ n && n ≤ 0xDBFF

/-- The second half of a pair. -/
def isLow (n : Nat) : Bool := 0xDC00 ≤ n && n ≤ 0xDFFF

/-- The character of a pair. -/
def pairChar (high low : Nat) : Char :=
  Char.ofNat ((high - 0xD800) * 0x400 + (low - 0xDC00) + 0x10000)

/-- What is reported for the end of a string, if anything. -/
def Ending.error? : Ending → Option SyntaxError
  | .closed => none
  | .textEnds => some .textEndsInString
  | .badUnit => some .invalidEscape
  | .badEscape => some .invalidEscape
  | .control => some .controlCharacter

/-- What is reported when a string ends after the first half of a pair. -/
def Ending.afterHigh : Ending → SyntaxError
  | .textEnds => .textEndsInString
  | .badUnit => .invalidEscape
  | _ => .halfPair

/-- The characters of the pieces of a string, or the first thing wrong with them. -/
def join (e : Ending) : List Piece → Except SyntaxError (List Char)
  | [] =>
    match e.error? with
    | none => .ok []
    | some x => .error x
  | .char c :: ps => (join e ps).map (c :: ·)
  | .unit n :: ps =>
    if isLow n then .error .loneSurrogate
    else if isHigh n then
      match ps with
      | [] => .error e.afterHigh
      | .char _ :: _ => .error .halfPair
      | .unit m :: ps' =>
        if isLow m then (join e ps').map (pairChar n m :: ·) else .error .loneSurrogate
    else (join e ps).map (Char.ofNat n :: ·)

/-! ## Tokens -/

/-- What stands at an opening quote. -/
inductive StringToken where
  | plain (s : String)
  /-- A whole string whose units do not pair. -/
  | unreadable (e : SyntaxError)
  /-- No whole string. -/
  | broken (f : Fault)
deriving DecidableEq, Repr

/-- The token at an opening quote, from the text after the quote, and the text after it. -/
def StringToken.read (cs : List Char) : StringToken × List Char :=
  let (ps, e, rest) := scan cs
  let token :=
    match join e ps, e.error? with
    | .ok s, _ => .plain (String.ofList s)
    | .error x, none => .unreadable x
    | .error x, some y => .broken ⟨x, y⟩
  (token, rest)

theorem StringToken.length_read_le (cs : List Char) :
    (StringToken.read cs).2.length ≤ cs.length :=
  length_scan_le cs

end WebhookClient.Json
