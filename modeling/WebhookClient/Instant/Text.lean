import WebhookClient.Instant.Basic
import WebhookClient.Text.Characters
import WebhookClient.Text.Decimal

/-!
# The text of instants

An instant is written as date, `T`, time and `Z`. The fraction of the second has 0, 3, 6 or 9
digits, the fewest that lose nothing. A year from 0 to 9999 has four digits; any other has a sign
and at least four digits.

The reader accepts date, separator (`T`, `t` or a space), time, and offset (`Z`, `z`, `UTC`, or
a sign with hours and optional colon and minutes). Blanks may stand before each number and
before each separator of the date and the time. Numbers may be shorter than their width; the
year may have a sign, and then any number of digits. A fraction is cut to nanoseconds.
-/

set_option autoImplicit false

namespace WebhookClient.Instant

/-! ## Writing -/

section

open Decimal

/-- The year of a date: four digits, or a sign and at least four digits. -/
def yearText (y : Int) : List Char :=
  if 0 ≤ y ∧ y ≤ 9999 then padded 4 y.toNat
  else (if y < 0 then '-' else '+') :: padded 4 y.natAbs

/-- The fraction of a second in 0, 3, 6 or 9 digits. -/
def fractionText (nano : Nat) : List Char :=
  if nano = 0 then []
  else if nano % 1000000 = 0 then '.' :: padded 3 (nano / 1000000)
  else if nano % 1000 = 0 then '.' :: padded 6 (nano / 1000)
  else '.' :: padded 9 nano

/-- The second of the minute that is shown, and the nanosecond within it: a leap second is shown
as the second after the one it is counted in. -/
def shownSecond (t : Instant) : Nat × Nat :=
  if nanosPerSecond ≤ t.nano then (t.second % 60 + 1, t.nano - nanosPerSecond)
  else (t.second % 60, t.nano)

/-- The characters of an instant in UTC. -/
def render (t : Instant) : List Char :=
  let d := Date.ofDays t.days
  let (s, n) := t.shownSecond
  yearText d.year ++ '-' :: padded 2 d.month ++ '-' :: padded 2 d.day ++
    'T' :: padded 2 (t.second / 3600) ++ ':' :: padded 2 (t.second / 60 % 60) ++
    ':' :: padded 2 s ++ fractionText n ++ ['Z']

/-- The text of an instant in UTC. -/
def toText (t : Instant) : String := String.ofList t.render

end

/-! ## Reading -/

open Text

/-- A step of the reader: what it takes from the front of the text, and the rest. -/
abbrev Step (α : Type) := List Char → Except ReadError (α × List Char)

/-- The largest number that a run of digits may denote. -/
def maxNumber : Nat := 9223372036854775807

/-- A number of at least one and at most `width` digits, if a width is given. -/
def number (width : Option Nat) : Step Nat := fun cs =>
  let ds := (match width with | some w => cs.take w | none => cs).takeWhile Char.isDigit
  if cs.isEmpty then .error .tooShort
  else if ds.isEmpty then .error .invalidCharacter
  else if maxNumber < Decimal.value ds then .error .outOfRange
  else .ok (Decimal.value ds, cs.drop ds.length)

/-- A number of one or two digits in a range, after blanks. -/
def ranged (lo hi : Nat) : Step Nat := fun cs => do
  let (n, rest) ← number (some 2) (trimStart cs)
  if lo ≤ n ∧ n ≤ hi then .ok (n, rest) else .error .outOfRange

/-- A year in a range of 32 bits: at most four digits, or a sign and any number of digits. -/
def year : Step Int := fun cs => do
  let (y, rest) ← (match trimStart cs with
    | '-' :: r => do
      let (n, rest) ← number none r
      .ok (-(n : Int), rest)
    | '+' :: r => do
      let (n, rest) ← number none r
      .ok ((n : Int), rest)
    | r => do
      let (n, rest) ← number (some 4) r
      .ok ((n : Int), rest) : Except ReadError (Int × List Char))
  if -2147483648 ≤ y ∧ y ≤ 2147483647 then .ok (y, rest) else .error .outOfRange

/-- One required character, after blanks. -/
def separator (c : Char) : Step Unit := fun cs =>
  match trimStart cs with
  | [] => .error .tooShort
  | d :: rest => if d = c then .ok ((), rest) else .error .invalidCharacter

/-- The fraction of a second, cut to nanoseconds; no point means no fraction. -/
def fraction : Step Nat := fun cs =>
  match cs with
  | '.' :: r => do
    let (n, rest) ← number (some 9) r
    let places := r.length - rest.length
    .ok (n * Nat.pow 10 (9 - places), rest.dropWhile Char.isDigit)
  | _ => .ok (0, cs)

/-- Two digits, the first of them at most `most`; a larger first digit is out of range. -/
def twoDigits (most : Char) : Step Nat
  | a :: b :: rest =>
    if a.isDigit && b.isDigit then
      if a ≤ most then .ok (Decimal.value [a, b], rest) else .error .outOfRange
    else .error .invalidCharacter
  | [] => .error .tooShort
  | [a] => if a.utf8Size < 2 then .error .tooShort else .error .invalidCharacter

/-- The sign of an offset: a plus, a hyphen or the minus sign. -/
def offsetSign : Step Int
  | [] => .error .tooShort
  | '+' :: rest => .ok (1, rest)
  | '-' :: rest => .ok (-1, rest)
  | '−' :: rest => .ok (-1, rest)
  | _ => .error .invalidCharacter

/-- An offset from UTC in seconds. -/
def offset : Step Int := fun cs =>
  match cs with
  | 'Z' :: rest => .ok (0, rest)
  | 'z' :: rest => .ok (0, rest)
  | u :: t :: c :: rest =>
    if [u, t, c].map Char.toUpper = ['U', 'T', 'C'] then .ok (0, rest) else signed cs
  | _ => signed cs
where
  /-- A sign, two digits of hours, and the minutes after any colons and blanks. -/
  signed : Step Int := fun cs => do
    let (sign, cs) ← offsetSign cs
    let (hours, cs) ← twoDigits '9' cs
    let (minutes, cs) ← twoDigits '5' (cs.dropWhile fun c => c = ':' || isBlank c)
    .ok (sign * (hours * 3600 + minutes * 60), cs)

/-- The date and time of a text as written, before its offset is applied. -/
structure Local where
  date : Date
  hour : Nat
  minute : Nat
  second : Nat
  nano : Nat
  offset : Int

/-- The separator between date and time. -/
def dateTimeSeparator : Step Unit
  | [] => .error .tooShort
  | c :: rest => if c = 'T' || c = 't' || c = ' ' then .ok ((), rest) else .error .invalidCharacter

/-- The parts of a text in order; only blanks may follow them. -/
def readLocal (cs : List Char) : Except ReadError Local := do
  let (y, cs) ← year cs
  let ((), cs) ← separator '-' cs
  let (mo, cs) ← ranged 1 12 cs
  let ((), cs) ← separator '-' cs
  let (d, cs) ← ranged 1 31 cs
  let ((), cs) ← dateTimeSeparator cs
  let (h, cs) ← ranged 0 23 cs
  let ((), cs) ← separator ':' cs
  let (mi, cs) ← ranged 0 59 cs
  let ((), cs) ← separator ':' cs
  let (s, cs) ← ranged 0 60 cs
  let (n, cs) ← fraction cs
  let (off, cs) ← offset (trimStart cs)
  if allBlank cs then .ok ⟨⟨y, mo, d⟩, h, mi, s, n, off⟩ else .error .trailingText

/-- The instant that a local date and time denote: the offset is subtracted, and second 60 is a
leap second of second 59. -/
def ofLocal (l : Local) : Except ReadError Instant :=
  if ¬ l.date.IsValid then .error .outOfRange
  else if ¬ (-(secondsPerDay : Int) < l.offset ∧ l.offset < secondsPerDay) then .error .outOfRange
  else
    let leap := l.second = 60
    let second : Int :=
      l.hour * 3600 + l.minute * 60 + (if leap then 59 else l.second) - l.offset
    let days := l.date.toDays + second.fdiv secondsPerDay
    let second := (second.fmod secondsPerDay).toNat
    let nano := if leap then l.nano + nanosPerSecond else l.nano
    if h : IsPoint days second nano then .ok ⟨days, second, nano, h⟩ else .error .impossible

/-- Reads a whole text as an instant. -/
def ofText (s : String) : Except ReadError Instant := do
  ofLocal (← readLocal s.toList)

end WebhookClient.Instant
