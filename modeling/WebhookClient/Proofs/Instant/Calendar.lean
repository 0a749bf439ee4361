import Mathlib
import WebhookClient.Instant.Basic

/-!
# The calendar

Day numbers and dates correspond to each other: the date of a day number has that number, and the
date of the next number is the next date of the calendar. Main statements: `toDays_ofDays`,
`ofDays_toDays` and `ofDays_succ`.
-/

set_option autoImplicit false

namespace WebhookClient.Date

/-! ## Years -/

theorem daysBeforeYear_eq (y : Int) :
    daysBeforeYear y = 365 * y + (y + 3) / 4 - (y + 99) / 100 + (y + 399) / 400 := by
  unfold daysBeforeYear
  rw [Int.fdiv_eq_ediv_of_nonneg _ (by decide), Int.fdiv_eq_ediv_of_nonneg _ (by decide),
    Int.fdiv_eq_ediv_of_nonneg _ (by decide)]

/-- The number of days of a year. -/
def daysInYear (y : Int) : Nat := if isLeapYear y then 366 else 365

theorem isLeapYear_iff (y : Int) :
    isLeapYear y = true ↔ y % 4 = 0 ∧ (y % 100 ≠ 0 ∨ y % 400 = 0) := by
  simp [isLeapYear]

theorem daysBeforeYear_succ (y : Int) :
    daysBeforeYear (y + 1) = daysBeforeYear y + daysInYear y := by
  rw [daysBeforeYear_eq, daysBeforeYear_eq, daysInYear]
  split_ifs with h
  · rw [isLeapYear_iff] at h
    omega
  · rw [isLeapYear_iff] at h
    omega

/-- A day lies in the year that is found for it. -/
theorem yearOf_spec (n : Int) :
    daysBeforeYear (yearOf n) ≤ n ∧ n < daysBeforeYear (yearOf n + 1) := by
  have hest : (400 * n).fdiv 146097 = 400 * n / 146097 :=
    Int.fdiv_eq_ediv_of_nonneg _ (by decide)
  unfold yearOf
  rw [hest]
  have hlow : 146097 * (400 * n / 146097) ≤ 400 * n := Int.mul_ediv_self_le (by decide)
  have hhigh : 400 * n < 146097 * (400 * n / 146097) + 146097 := by omega
  generalize 400 * n / 146097 = y at hlow hhigh
  -- The estimate is off by the days that leap years are ahead of their mean, less than a year.
  by_cases h1 : n < daysBeforeYear y
  · rw [if_pos h1, Int.sub_add_cancel]
    refine ⟨?_, h1⟩
    rw [daysBeforeYear_eq]
    omega
  · rw [if_neg h1]
    by_cases h2 : daysBeforeYear (y + 1) ≤ n
    · rw [if_pos h2]
      refine ⟨h2, ?_⟩
      rw [daysBeforeYear_eq]
      omega
    · rw [if_neg h2]
      exact ⟨Int.not_lt.1 h1, Int.not_le.1 h2⟩

/-! ## Months -/

theorem daysBeforeMonth_succ (y : Int) {m : Nat} (hm : 1 ≤ m) :
    daysBeforeMonth y (m + 1) = daysBeforeMonth y m + daysInMonth y m := by
  obtain ⟨k, rfl⟩ := Nat.exists_eq_add_of_le' hm
  unfold daysBeforeMonth
  rw [Nat.add_sub_cancel, Nat.add_sub_cancel, List.range_succ, List.foldl_append]
  rfl

theorem daysBeforeMonth_end (y : Int) : daysBeforeMonth y 13 = daysInYear y := by
  unfold daysInYear
  cases h : isLeapYear y <;> simp [daysBeforeMonth, List.range, List.range.loop, daysInMonth, h]

/-- A day of a year lies in the month that is found for it, at the day of the month that is
found. -/
theorem monthAndDay_spec (y : Int) {left m n m' d : Nat} (hm : 1 ≤ m)
    (hn : daysBeforeMonth y m + n < daysBeforeMonth y (m + left + 1))
    (h : monthAndDay y left m n = (m', d)) :
    m ≤ m' ∧ m' ≤ m + left ∧ 1 ≤ d ∧ d ≤ daysInMonth y m' ∧
      daysBeforeMonth y m' + (d - 1) = daysBeforeMonth y m + n := by
  induction left generalizing m n with
  | zero =>
    cases h
    rw [Nat.add_zero, daysBeforeMonth_succ y hm] at hn
    omega
  | succ left ih =>
    rw [monthAndDay] at h
    split_ifs at h with hlt
    · cases h
      omega
    · have hstep := daysBeforeMonth_succ y hm
      have hsum : m + (left + 1) + 1 = m + 1 + left + 1 := by omega
      rw [hsum] at hn
      obtain ⟨h1, h2, h3, h4, h5⟩ := ih (by omega) (by omega) h
      exact ⟨by omega, by omega, h3, h4, by omega⟩

/-! ## Dates -/

/-- The parts of the date of a day number. -/
theorem ofDays_spec (days : Int) :
    1 ≤ (ofDays days).month ∧ (ofDays days).month ≤ 12 ∧ 1 ≤ (ofDays days).day ∧
      (ofDays days).day ≤ daysInMonth (ofDays days).year (ofDays days).month ∧
      (ofDays days).toDays = days := by
  obtain ⟨hlow, hhigh⟩ := yearOf_spec (days + epoch)
  rw [daysBeforeYear_succ] at hhigh
  -- The year and the month are named, so that what is left is linear arithmetic.
  obtain ⟨y, hy⟩ : ∃ y, yearOf (days + epoch) = y := ⟨_, rfl⟩
  rw [hy] at hlow hhigh
  have hstart : daysBeforeMonth y 1 = 0 := rfl
  have hend := daysBeforeMonth_end y
  obtain ⟨m, d, hmd⟩ : ∃ m d,
      monthAndDay y 11 1 (days + epoch - daysBeforeYear y).toNat = (m, d) := ⟨_, _, rfl⟩
  have hday : ofDays days = ⟨y, m, d⟩ := by
    unfold ofDays
    simp only [hy, hmd]
  have hn : daysBeforeMonth y 1 + (days + epoch - daysBeforeYear y).toNat <
      daysBeforeMonth y 13 := by
    omega
  obtain ⟨h1, h2, h3, h4, h5⟩ := monthAndDay_spec y (le_refl 1) hn hmd
  rw [hday]
  refine ⟨h1, h2, h3, h4, ?_⟩
  show daysBeforeYear y + daysBeforeMonth y m + ((d : Int) - 1) - epoch = days
  omega

/-- The date of a day number has that number. -/
theorem toDays_ofDays (days : Int) : (ofDays days).toDays = days := (ofDays_spec days).2.2.2.2

/-! ## The succession of dates -/

/-- The month is one of twelve, and it has that day. -/
structure IsDay (d : Date) : Prop where
  one_le_month : 1 ≤ d.month
  month_le : d.month ≤ 12
  one_le_day : 1 ≤ d.day
  day_le : d.day ≤ daysInMonth d.year d.month

theorem isDay_ofDays (days : Int) : (ofDays days).IsDay := by
  obtain ⟨h1, h2, h3, h4, -⟩ := ofDays_spec days
  exact ⟨h1, h2, h3, h4⟩

theorem isValid_iff {d : Date} : d.IsValid ↔ minYear ≤ d.year ∧ d.year ≤ maxYear ∧ d.IsDay := by
  constructor
  · rintro ⟨h1, h2, h3, h4, h5, h6⟩
    exact ⟨h1, h2, h3, h4, h5, h6⟩
  · rintro ⟨h1, h2, h3, h4, h5, h6⟩
    exact ⟨h1, h2, h3, h4, h5, h6⟩

theorem daysBeforeYear_mono : Monotone daysBeforeYear :=
  monotone_int_of_le_succ fun y => by
    rw [daysBeforeYear_succ]
    omega

/-- The days before a later month include those of this one. -/
theorem daysBeforeMonth_add_le (y : Int) {m k : Nat} (hm : 1 ≤ m) (h : m < k) :
    daysBeforeMonth y m + daysInMonth y m ≤ daysBeforeMonth y k := by
  rw [← daysBeforeMonth_succ y hm]
  induction k, h using Nat.le_induction with
  | base => exact le_rfl
  | succ k hk ih => exact ih.trans (by rw [daysBeforeMonth_succ y (by omega)]; omega)

namespace IsDay

variable {d e : Date}

/-- A day lies in its year. -/
theorem toDays_lt (hd : d.IsDay) :
    daysBeforeYear d.year ≤ d.toDays + epoch ∧
      d.toDays + epoch < daysBeforeYear (d.year + 1) := by
  obtain ⟨h1, h2, h3, h4⟩ := hd
  have hmonth := daysBeforeMonth_add_le d.year h1 (by omega : d.month < 13)
  rw [daysBeforeMonth_end] at hmonth
  rw [daysBeforeYear_succ]
  unfold toDays
  omega

/-- No later year has the same day. -/
theorem year_le (hd : d.IsDay) (he : e.IsDay) (h : d.toDays = e.toDays) : d.year ≤ e.year := by
  by_contra hlt
  -- The days of a later year come after all days of this one.
  have hstep := daysBeforeYear_mono (by omega : e.year + 1 ≤ d.year)
  have hlow := hd.toDays_lt.1
  have hhigh := he.toDays_lt.2
  omega

/-- No two dates are the same day. -/
theorem eq_of_toDays_eq (hd : d.IsDay) (he : e.IsDay) (h : d.toDays = e.toDays) : d = e := by
  have hyear := le_antisymm (hd.year_le he h) (he.year_le hd h.symm)
  obtain ⟨y, m, a⟩ := d
  obtain ⟨y', k, b⟩ := e
  obtain rfl : y = y' := hyear
  obtain ⟨hm1, -, ha1, ha⟩ := hd
  obtain ⟨hk1, -, hb1, hb⟩ := he
  dsimp only at hm1 ha1 ha hk1 hb1 hb
  unfold toDays at h
  dsimp only at h
  have hmonth : m = k := by
    obtain hlt | heq | hgt := lt_trichotomy m k
    · have := daysBeforeMonth_add_le y hm1 hlt
      omega
    · exact heq
    · have := daysBeforeMonth_add_le y hk1 hgt
      omega
  subst hmonth
  obtain rfl : a = b := by omega
  rfl

end IsDay

/-- A date is that of its day number. -/
theorem ofDays_toDays {d : Date} (hd : d.IsDay) : ofDays d.toDays = d :=
  (isDay_ofDays _).eq_of_toDays_eq hd (toDays_ofDays _)

/-- The date after a date: the next day of the month, or the first of the next month or year. -/
def next (d : Date) : Date :=
  if d.day < daysInMonth d.year d.month then ⟨d.year, d.month, d.day + 1⟩
  else if d.month < 12 then ⟨d.year, d.month + 1, 1⟩
  else ⟨d.year + 1, 1, 1⟩

theorem one_le_daysInMonth (y : Int) (m : Nat) : 1 ≤ daysInMonth y m := by
  unfold daysInMonth
  split <;> try split_ifs
  all_goals decide

theorem daysInMonth_le (y : Int) (m : Nat) : daysInMonth y m ≤ 31 := by
  unfold daysInMonth
  split <;> try split_ifs
  all_goals decide

theorem IsDay.next {d : Date} (hd : d.IsDay) : d.next.IsDay ∧ d.next.toDays = d.toDays + 1 := by
  obtain ⟨h1, h2, h3, h4⟩ := hd
  have hmonth := daysBeforeMonth_succ d.year h1
  unfold Date.next
  split_ifs with hday hlast
  · refine ⟨⟨h1, h2, by dsimp only; omega, hday⟩, ?_⟩
    unfold toDays
    dsimp only
    omega
  · refine ⟨⟨by dsimp only; omega, hlast, le_rfl, one_le_daysInMonth _ _⟩, ?_⟩
    unfold toDays
    dsimp only
    omega
  · -- After December the days of the year have passed.
    have hend : daysBeforeMonth d.year (12 + 1) = daysInYear d.year := daysBeforeMonth_end d.year
    have hstart : daysBeforeMonth (d.year + 1) 1 = 0 := rfl
    have htwelve : d.month = 12 := by omega
    rw [htwelve] at hmonth hday h4
    refine ⟨⟨le_rfl, Nat.le_add_left 1 11, le_rfl, one_le_daysInMonth _ _⟩, ?_⟩
    unfold toDays
    dsimp only
    rw [daysBeforeYear_succ, hstart, htwelve]
    omega

/-- The date of the next day number is the next date. -/
theorem ofDays_succ (days : Int) : ofDays (days + 1) = (ofDays days).next := by
  obtain ⟨hday, hnumber⟩ := (isDay_ofDays days).next
  rw [toDays_ofDays] at hnumber
  rw [← hnumber, ofDays_toDays hday]

theorem ofDays_zero : ofDays 0 = ⟨1970, 1, 1⟩ := by decide

end WebhookClient.Date
