/-!
# Instants

A point in time in UTC on the proleptic Gregorian calendar, to the nanosecond. A leap second is
kept: it is the second that follows second 59 of its minute, and has a place of its own. Days are
counted from 1970-01-01; the conversion between day numbers and dates is exact for all years.
-/

set_option autoImplicit false

namespace WebhookClient

/-! ## The calendar -/

/-- A calendar date. -/
structure Date where
  year : Int
  month : Nat
  day : Nat
deriving DecidableEq, Repr

namespace Date

/-- A year is a leap year when 4 divides it, but not if 100 does and 400 does not. -/
def isLeapYear (y : Int) : Bool := y % 4 = 0 && (y % 100 ≠ 0 || y % 400 = 0)

/-- The number of days of a month. -/
def daysInMonth (y : Int) (m : Nat) : Nat :=
  match m with
  | 2 => if isLeapYear y then 29 else 28
  | 4 | 6 | 9 | 11 => 30
  | _ => 31

/-- The first and last year of the calendar. -/
def minYear : Int := -262143
def maxYear : Int := 262142

/-- A date of the calendar: its month has that day, and its year is in range. -/
def IsValid (d : Date) : Prop :=
  minYear ≤ d.year ∧ d.year ≤ maxYear ∧ 1 ≤ d.month ∧ d.month ≤ 12 ∧ 1 ≤ d.day ∧
    d.day ≤ daysInMonth d.year d.month

instance (d : Date) : Decidable d.IsValid := by
  unfold IsValid
  infer_instance

/-- The days before 1 January of a year, counted from 1 January of year 0. -/
def daysBeforeYear (y : Int) : Int :=
  365 * y + (y + 3).fdiv 4 - (y + 99).fdiv 100 + (y + 399).fdiv 400

/-- The days of a year before a month. -/
def daysBeforeMonth (y : Int) (m : Nat) : Nat :=
  (List.range (m - 1)).foldl (fun n i => n + daysInMonth y (i + 1)) 0

/-- The day number of 1970-01-01, counted from 1 January of year 0. -/
def epoch : Int := 719528

/-- The day number of a date, counted from 1970-01-01. -/
def toDays (d : Date) : Int :=
  daysBeforeYear d.year + daysBeforeMonth d.year d.month + (d.day - 1) - epoch

/-- The month and day of the day that `n` days follow within its year, from month `m` on. -/
def monthAndDay (y : Int) : Nat → Nat → Nat → Nat × Nat
  | 0, m, n => (m, n + 1)
  | left + 1, m, n =>
    if n < daysInMonth y m then (m, n + 1) else monthAndDay y left (m + 1) (n - daysInMonth y m)

/-- The year that a day number falls in, counted from 1 January of year 0: the estimate by the
mean length of a year is at most one off. -/
def yearOf (n : Int) : Int :=
  let y := (400 * n).fdiv 146097
  if n < daysBeforeYear y then y - 1 else if daysBeforeYear (y + 1) ≤ n then y + 1 else y

/-- The date of a day number counted from 1970-01-01. -/
def ofDays (days : Int) : Date :=
  let n := days + epoch
  let y := yearOf n
  let (m, d) := monthAndDay y 11 1 (n - daysBeforeYear y).toNat
  ⟨y, m, d⟩

end Date

/-! ## Instants -/

namespace Instant

/-- The nanoseconds of a second. -/
def nanosPerSecond : Nat := 1000000000

/-- The seconds of a day. -/
def secondsPerDay : Nat := 86400

/-- What the calendar has as a point in time: the date is in range, and a leap second follows the
last second of a minute. -/
def IsPoint (days : Int) (second nano : Nat) : Prop :=
  (Date.ofDays days).IsValid ∧ second < secondsPerDay ∧ nano < 2 * nanosPerSecond ∧
    (nanosPerSecond ≤ nano → second % 60 = 59)

instance (days : Int) (second nano : Nat) : Decidable (IsPoint days second nano) :=
  inferInstanceAs (Decidable (_ ∧ _ ∧ _ ∧ (_ → _)))

end Instant

/-- A point in time: the second within the day in UTC, and the nanosecond within the second. A
nanosecond of one thousand million or more belongs to a leap second, which follows the second
it is counted in. -/
structure Instant where
  days : Int
  second : Nat
  nano : Nat
  valid : Instant.IsPoint days second nano
deriving DecidableEq, Repr

namespace Instant

/-- Why a text is not read as an instant. -/
inductive ReadError where
  /-- A character stands where it cannot stand. -/
  | invalidCharacter
  /-- A number is not in its range, or the date is not in the calendar. -/
  | outOfRange
  /-- The text ends too early. -/
  | tooShort
  /-- Something follows the instant. -/
  | trailingText
  /-- The offset carries the date out of the calendar. -/
  | impossible
deriving DecidableEq, Repr

/-- The wording of a failure. -/
def ReadError.message : ReadError → String
  | .invalidCharacter => "input contains invalid characters"
  | .outOfRange => "input is out of range"
  | .tooShort => "premature end of input"
  | .trailingText => "trailing input"
  | .impossible => "no possible date and time matching input"

end Instant

end WebhookClient
