import WebhookClient.Binary64.Shortest

/-!
# JSON numbers

A number token is a `Numeral`: sign, whole digits, optional fraction, optional exponent. It
denotes an integer if it has neither fraction nor exponent and fits 64 bits (signed if it is
negative, unsigned otherwise), and else a double. Only the leading digits that fit an unsigned
64-bit number count towards a double; the rest only move its exponent.
-/

set_option autoImplicit false

namespace WebhookClient.Json

/-- A number: an integer of 64 bits or a double. -/
inductive Number where
  | int (value : Int)
  | float (value : Binary64)
deriving DecidableEq, Repr

namespace Number

/-- Equality of the numbers denoted; an integer never equals a double. -/
def numEq : Number → Number → Bool
  | .int a, .int b => a == b
  | .float a, .float b => a.numEq b
  | _, _ => false

/-- The text of a number. -/
def render : Number → List Char
  | .int i => Decimal.ofInt i
  | .float x => x.toText

end Number

/-! ## Number tokens -/

/-- Why the characters after a sign or a first digit are not a number. -/
inductive NumeralFault where
  /-- The text ends where a digit is needed. -/
  | textEnds
  /-- Something else stands where a digit is needed, or a digit follows a leading zero. -/
  | notADigit
deriving DecidableEq, Repr

/-- A number as it is written. -/
structure Numeral where
  negative : Bool
  whole : List Char
  /-- The digits after the point, if there is one. -/
  fraction : Option (List Char)
  /-- Whether the exponent is negative, and its digits. -/
  exponent : Option (Bool × List Char)
deriving DecidableEq, Repr

namespace Numeral

/-- The run of digits at the front of a text, and the rest. -/
def spanDigits (cs : List Char) : List Char × List Char :=
  (cs.takeWhile Char.isDigit, cs.dropWhile Char.isDigit)

theorem spanDigits_append (cs : List Char) : (spanDigits cs).1 ++ (spanDigits cs).2 = cs :=
  List.takeWhile_append_dropWhile

/-- A run of at least one digit. -/
def someDigits (cs : List Char) : Except NumeralFault (List Char × List Char) :=
  if (spanDigits cs).1 = [] then .error (if cs = [] then .textEnds else .notADigit)
  else .ok (spanDigits cs)

/-- The whole digits: a zero that no digit follows, or a run that does not start with zero. -/
def readWhole : List Char → Except NumeralFault (List Char × List Char)
  | '0' :: c :: rest => if c.isDigit then .error .notADigit else .ok (['0'], c :: rest)
  | cs => someDigits cs

/-- The fraction, if a point follows. -/
def readFraction : List Char → Except NumeralFault (Option (List Char) × List Char)
  | '.' :: cs => do
    let (ds, rest) ← someDigits cs
    .ok (some ds, rest)
  | cs => .ok (none, cs)

/-- Whether the sign of an exponent is a minus, and what follows the sign. -/
def exponentSign : List Char → Bool × List Char
  | '+' :: cs => (false, cs)
  | '-' :: cs => (true, cs)
  | cs => (false, cs)

/-- The exponent, if `e` or `E` follows. -/
def readExponent : List Char → Except NumeralFault (Option (Bool × List Char) × List Char)
  | [] => .ok (none, [])
  | c :: cs =>
    if c = 'e' ∨ c = 'E' then do
      let (ds, rest) ← someDigits (exponentSign cs).2
      .ok (some ((exponentSign cs).1, ds), rest)
    else .ok (none, c :: cs)

/-- A number without its sign. -/
def readUnsigned (negative : Bool) (cs : List Char) : Except NumeralFault (Numeral × List Char) :=
  do
    let (w, cs) ← readWhole cs
    let (f, cs) ← readFraction cs
    let (e, cs) ← readExponent cs
    .ok (⟨negative, w, f, e⟩, cs)

/-- A number that starts with a minus or a digit. -/
def read : List Char → Except NumeralFault (Numeral × List Char)
  | '-' :: cs => readUnsigned true cs
  | cs => readUnsigned false cs

theorem length_someDigits_lt {cs : List Char} {r : List Char × List Char}
    (h : someDigits cs = .ok r) : r.2.length < cs.length := by
  unfold someDigits at h
  split at h
  · simp at h
  · next hne =>
    have happ := congrArg List.length (spanDigits_append cs)
    have hpos := List.length_pos_iff.2 hne
    cases h
    rw [List.length_append] at happ
    omega

theorem length_readWhole_lt {cs : List Char} {r : List Char × List Char}
    (h : readWhole cs = .ok r) : r.2.length < cs.length := by
  unfold readWhole at h
  split at h
  · split at h
    · simp at h
    · cases h
      simp
  · exact length_someDigits_lt h

theorem length_readFraction_le {cs : List Char} {r : Option (List Char) × List Char}
    (h : readFraction cs = .ok r) : r.2.length ≤ cs.length := by
  unfold readFraction at h
  split at h
  · next cs =>
    cases hd : someDigits cs with
    | error e => simp [hd, bind, Except.bind] at h
    | ok q =>
      have := length_someDigits_lt hd
      simp only [hd, bind, Except.bind, Except.ok.injEq] at h
      subst h
      simp only [List.length_cons]
      omega
  · cases h
    exact Nat.le_refl _

theorem length_exponentSign_le (cs : List Char) : (exponentSign cs).2.length ≤ cs.length := by
  unfold exponentSign
  split <;> simp

theorem length_readExponent_le {cs : List Char} {r : Option (Bool × List Char) × List Char}
    (h : readExponent cs = .ok r) : r.2.length ≤ cs.length := by
  unfold readExponent at h
  split at h
  · cases h
    exact Nat.le_refl _
  · next c cs =>
    split at h
    · cases hd : someDigits (exponentSign cs).2 with
      | error e => simp [hd, bind, Except.bind] at h
      | ok q =>
        have h1 := length_someDigits_lt hd
        have h2 := length_exponentSign_le cs
        simp only [hd, bind, Except.bind, Except.ok.injEq] at h
        subst h
        simp only [List.length_cons]
        omega
    · cases h
      exact Nat.le_refl _

/-- Reading a number takes at least one character. -/
theorem length_read_lt {cs : List Char} {r : Numeral × List Char} (h : read cs = .ok r) :
    r.2.length < cs.length := by
  have unsigned : ∀ {b : Bool} {cs : List Char}, readUnsigned b cs = .ok r →
      r.2.length < cs.length := by
    intro b cs h
    unfold readUnsigned at h
    cases hw : readWhole cs with
    | error e => simp [hw, bind, Except.bind] at h
    | ok w =>
      cases hf : readFraction w.2 with
      | error e => simp [hw, hf, bind, Except.bind] at h
      | ok f =>
        cases he : readExponent f.2 with
        | error e => simp [hw, hf, he, bind, Except.bind] at h
        | ok e =>
          have h1 := length_readWhole_lt hw
          have h2 := length_readFraction_le hf
          have h3 := length_readExponent_le he
          simp only [hw, hf, he, bind, Except.bind, Except.ok.injEq] at h
          subst h
          simp only
          omega
  unfold read at h
  split at h
  · have := unsigned h
    simp only [List.length_cons]
    omega
  · exact unsigned h

/-! ## The number denoted -/

/-- The largest significand that is kept exactly. -/
def maxSignificand : Nat := 18446744073709551615

/-- Appends digits to a significand as long as it fits 64 bits; the rest is left over. -/
def appendDigits (s : Nat) : List Char → Nat × List Char
  | [] => (s, [])
  | c :: cs =>
    let s' := 10 * s + (c.toNat - '0'.toNat)
    if s' ≤ maxSignificand then appendDigits s' cs else (s, c :: cs)

/-- The signed value of an exponent. -/
def exponentValue : Option (Bool × List Char) → Int
  | none => 0
  | some (true, ds) => -(Decimal.value ds : Int)
  | some (false, ds) => Decimal.value ds

/-- The double that a numeral denotes, with its sign. -/
def toFloat? (n : Numeral) : Option Binary64 :=
  let (s, left) := appendDigits 0 n.whole
  let fraction := n.fraction.getD []
  let (s, leftOfFraction) := appendDigits s fraction
  let e : Int := left.length - ((fraction.length : Int) - leftOfFraction.length)
    + exponentValue n.exponent
  (Binary64.ofDecimal? s e).map fun x => if n.negative then x.neg else x

/-- An integer of 64 bits: `-2^63 .. -1` after a minus, `0 .. 2^64 - 1` without. -/
def toInt? (n : Numeral) : Option Int :=
  match n.fraction, n.exponent with
  | none, none =>
    let v := Decimal.value n.whole
    if n.negative then if 0 < v ∧ v ≤ 9223372036854775808 then some (-(v : Int)) else none
    else if v ≤ maxSignificand then some v else none
  | _, _ => none

/-- The number that a numeral denotes; `none` above the largest double. -/
def toNumber? (n : Numeral) : Option Number :=
  match n.toInt? with
  | some i => some (.int i)
  | none => n.toFloat?.map .float

end Numeral

end WebhookClient.Json
