import Mathlib
import WebhookClient.Instant.Text
import WebhookClient.Proofs.Except
import WebhookClient.Proofs.Instant.Calendar
import WebhookClient.Proofs.Text.Decimal

/-!
# The text of an instant and back

The reader takes each part of the text of an instant for what it was written for, so the text is
read as the instant again, leap seconds included. Main statements: `ofText_toText`,
`toText_injective`.
-/

set_option autoImplicit false

namespace WebhookClient.Instant

open Decimal Text

/-! ## Numbers -/

theorem isBlank_of_isDigit {c : Char} (h : c.isDigit = true) : isBlank c = false := by
  have hranges : ∀ r ∈ blankRanges, r.2 < 48 ∨ 57 < r.1 := by decide
  simp only [Char.isDigit, Bool.and_eq_true, decide_eq_true_eq] at h
  have hlow : 48 ≤ c.toNat := h.1
  have hhigh : c.toNat ≤ 57 := h.2
  refine List.any_eq_false.2 fun r hr => ?_
  have := hranges r hr
  simp only [Bool.and_eq_true, decide_eq_true_eq]
  omega

theorem trimStart_of_not_isBlank {c : Char} (h : isBlank c = false) (cs : List Char) :
    trimStart (c :: cs) = c :: cs := by
  simp [trimStart, h]

theorem trimStart_digits {ds : List Char} (hds : ∀ c ∈ ds, c.isDigit = true) (hne : ds ≠ [])
    (cs : List Char) : trimStart (ds ++ cs) = ds ++ cs := by
  obtain ⟨c, ds, rfl⟩ := List.exists_cons_of_ne_nil hne
  exact trimStart_of_not_isBlank (isBlank_of_isDigit (hds c (by simp))) _

/-- A run of digits that is no longer than its width is read as its number if no digit follows
within the width. -/
theorem number_append {ds cs : List Char} {width : Option Nat}
    (hds : ∀ c ∈ ds, c.isDigit = true) (hne : ds ≠ []) (hvalue : value ds ≤ maxNumber)
    (hwidth : ∀ w ∈ width, ds.length ≤ w)
    (hcs : width = some ds.length ∨ (cs.head?.all fun c => !c.isDigit) = true) :
    number width (ds ++ cs) = .ok (value ds, cs) := by
  have hempty : (ds ++ cs).isEmpty = false := by simp [hne]
  have hempty' : ds.isEmpty = false := by simp [hne]
  unfold number
  cases width with
  | none =>
    obtain hcs | hcs := hcs
    · cases hcs
    · have hrun := (takeWhile_isDigit_append hds hcs).1
      simp only [hrun, hempty, hempty', Bool.false_eq_true, if_false, Nat.not_lt.2 hvalue,
        List.drop_left]
  | some w =>
    have hlength : ds.length ≤ w := hwidth w rfl
    have hrun : ((ds ++ cs).take w).takeWhile Char.isDigit = ds := by
      rw [List.take_append, List.take_of_length_le hlength]
      refine (takeWhile_isDigit_append hds ?_).1
      obtain hw | hcs := hcs
      · cases hw
        rw [Nat.sub_self, List.take_zero]
        rfl
      · cases w - ds.length with
        | zero => rfl
        | succ k =>
          cases cs with
          | nil => rfl
          | cons c cs => exact hcs
    simp only [hrun, hempty, hempty', Bool.false_eq_true, if_false, Nat.not_lt.2 hvalue,
      List.drop_left]

theorem number_padded {width : Option Nat} {w n : Nat} {cs : List Char} (hmax : n ≤ maxNumber)
    (hwidth : ∀ w' ∈ width, (padded w n).length ≤ w')
    (hcs : width = some (padded w n).length ∨ (cs.head?.all fun c => !c.isDigit) = true) :
    number width (padded w n ++ cs) = .ok (n, cs) := by
  have hvalue : value (padded w n) ≤ maxNumber := by
    rw [value_padded]
    exact hmax
  have h := number_append (fun c hc => isDigit_of_mem_padded hc) (padded_ne_nil w n) hvalue
    hwidth hcs
  rwa [value_padded] at h

theorem ranged_padded {lo hi n : Nat} (hlo : lo ≤ n) (hhi : n ≤ hi) (hn : n < 100)
    (cs : List Char) : ranged lo hi (padded 2 n ++ cs) = .ok (n, cs) := by
  have hdigits : ∀ c ∈ padded 2 n, c.isDigit = true := fun c hc => isDigit_of_mem_padded hc
  have hmax : n ≤ maxNumber := (Nat.le_of_lt hn).trans (by decide)
  have hlength : (padded 2 n).length = 2 := length_padded_of_lt (by decide) hn
  have hnumber : number (some 2) (padded 2 n ++ cs) = .ok (n, cs) := by
    refine number_padded hmax ?_ (.inl (by rw [hlength]))
    rintro _ ⟨⟩
    exact hlength.le
  unfold ranged
  rw [trimStart_digits hdigits (padded_ne_nil 2 n), hnumber]
  exact if_pos ⟨hlo, hhi⟩

/-! ## The parts of a text -/

theorem separator_cons {c : Char} (h : isBlank c = false) (cs : List Char) :
    separator c (c :: cs) = .ok ((), cs) := by
  unfold separator
  rw [trimStart_of_not_isBlank h]
  exact if_pos rfl

theorem year_yearText {y : Int} (hmin : Date.minYear ≤ y) (hmax : y ≤ Date.maxYear)
    (cs : List Char) : year (yearText y ++ '-' :: cs) = .ok (y, '-' :: cs) := by
  have hmin' : -262143 ≤ y := hmin
  have hmax' : y ≤ 262142 := hmax
  have hhead : ('-' :: cs).head?.all fun c => !c.isDigit := rfl
  have hread (width : Option Nat) (n : Nat) (hn : n ≤ 262143)
      (hwidth : ∀ w ∈ width, (padded 4 n).length ≤ w) :
      number width (padded 4 n ++ '-' :: cs) = .ok (n, '-' :: cs) :=
    number_padded (hn.trans (by decide)) hwidth (.inr hhead)
  have hrange : -2147483648 ≤ y ∧ y ≤ 2147483647 := by omega
  unfold yearText
  split_ifs with h4 hneg
  · -- Four digits, the first of which is no sign.
    have hn : y.toNat < 10 ^ 4 := by omega
    have hlength : (padded 4 y.toNat).length = 4 := length_padded_of_lt (by decide) hn
    have hnumber := hread (some 4) y.toNat (by omega) (by rintro _ ⟨⟩; exact hlength.le)
    have hback : ((y.toNat : Nat) : Int) = y := by omega
    obtain ⟨c, ds, hds⟩ := List.exists_cons_of_ne_nil (padded_ne_nil 4 y.toNat)
    have hc : c.isDigit = true :=
      isDigit_of_mem_padded (w := 4) (n := y.toNat) (by rw [hds]; simp)
    unfold year
    rw [hds] at hnumber ⊢
    rw [List.cons_append] at hnumber ⊢
    rw [trimStart_of_not_isBlank (isBlank_of_isDigit hc)]
    split
    · next r heq =>
      cases heq
      exact absurd hc (by decide)
    · next r heq =>
      cases heq
      exact absurd hc (by decide)
    · rw [hnumber]
      show (if -2147483648 ≤ (y.toNat : Int) ∧ (y.toNat : Int) ≤ 2147483647 then _ else _) = _
      rw [hback, if_pos hrange]
  · -- A sign, and as many digits as there are.
    have hnumber := hread none y.natAbs (by omega) (by rintro _ ⟨⟩)
    have hback : -((y.natAbs : Nat) : Int) = y := by omega
    refine bind_eq_ok_iff.2 ⟨(y, '-' :: cs), bind_eq_ok_iff.2 ⟨_, hnumber, ?_⟩, if_pos hrange⟩
    show Except.ok (-(y.natAbs : Int), '-' :: cs) = _
    rw [hback]
  · have hnumber := hread none y.natAbs (by omega) (by rintro _ ⟨⟩)
    have hback : ((y.natAbs : Nat) : Int) = y := by omega
    refine bind_eq_ok_iff.2 ⟨(y, '-' :: cs), bind_eq_ok_iff.2 ⟨_, hnumber, ?_⟩, if_pos hrange⟩
    show Except.ok ((y.natAbs : Int), '-' :: cs) = _
    rw [hback]

theorem fraction_padded {w k : Nat} (hw : 0 < w) (hw9 : w ≤ 9) (hk : k < 10 ^ w)
    (cs : List Char) :
    fraction ('.' :: (padded w k ++ 'Z' :: cs)) = .ok (k * Nat.pow 10 (9 - w), 'Z' :: cs) := by
  have hlength := length_padded_of_lt hw hk
  have hmax : k ≤ maxNumber := by
    have hpow : 10 ^ w ≤ 10 ^ 9 := Nat.pow_le_pow_right (by decide) hw9
    exact (hk.le.trans hpow).trans (by decide)
  have hwidth : ∀ w' ∈ some 9, (padded w k).length ≤ w' := by
    rintro _ ⟨⟩
    omega
  have hnumber : number (some 9) (padded w k ++ 'Z' :: cs) = .ok (k, 'Z' :: cs) :=
    number_padded hmax hwidth (.inr rfl)
  have hplaces : (padded w k ++ 'Z' :: cs).length - ('Z' :: cs).length = w := by
    rw [List.length_append, hlength, Nat.add_sub_cancel]
  unfold fraction
  show (number (some 9) (padded w k ++ 'Z' :: cs) >>= _) = _
  rw [hnumber]
  show Except.ok (k * Nat.pow 10 (9 - ((padded w k ++ 'Z' :: cs).length - ('Z' :: cs).length)),
    ('Z' :: cs).dropWhile Char.isDigit) = _
  rw [hplaces]
  rfl

theorem fraction_fractionText {n : Nat} (hn : n < nanosPerSecond) (cs : List Char) :
    fraction (fractionText n ++ 'Z' :: cs) = .ok (n, 'Z' :: cs) := by
  have hn' : n < 1000000000 := hn
  unfold fractionText
  split_ifs with h0 h3 h6
  · rw [h0]
    rfl
  · rw [List.cons_append, fraction_padded (by decide) (by decide) (by omega)]
    have hback : n / 1000000 * Nat.pow 10 (9 - 3) = n := by
      show n / 1000000 * 1000000 = n
      omega
    rw [hback]
  · rw [List.cons_append, fraction_padded (by decide) (by decide) (by omega)]
    have hback : n / 1000 * Nat.pow 10 (9 - 6) = n := by
      show n / 1000 * 1000 = n
      omega
    rw [hback]
  · rw [List.cons_append, fraction_padded (by decide) (by decide) (by omega)]
    have hback : n * Nat.pow 10 (9 - 9) = n := Nat.mul_one n
    rw [hback]

/-! ## Whole texts -/

theorem render_eq (t : Instant) :
    t.render = yearText (Date.ofDays t.days).year ++ '-' ::
      (padded 2 (Date.ofDays t.days).month ++ '-' ::
        (padded 2 (Date.ofDays t.days).day ++ 'T' ::
          (padded 2 (t.second / 3600) ++ ':' ::
            (padded 2 (t.second / 60 % 60) ++ ':' ::
              (padded 2 t.shownSecond.1 ++ (fractionText t.shownSecond.2 ++ ['Z'])))))) := by
  simp [render, List.append_assoc]

/-- The parts of a text are read for what they are. -/
theorem readLocal_append {d : Date} (hd : d.IsValid) {h mi s n : Nat} (hh : h ≤ 23)
    (hmi : mi ≤ 59) (hs : s ≤ 60) (hn : n < nanosPerSecond) :
    readLocal (yearText d.year ++ '-' :: (padded 2 d.month ++ '-' :: (padded 2 d.day ++ 'T' ::
      (padded 2 h ++ ':' :: (padded 2 mi ++ ':' :: (padded 2 s ++ (fractionText n ++ ['Z']))))))) =
      .ok ⟨d, h, mi, s, n, 0⟩ := by
  obtain ⟨hmin, hmax, hm1, hm12, hd1, hdim⟩ := hd
  have hd31 : d.day ≤ 31 := by
    refine hdim.trans ?_
    unfold Date.daysInMonth
    split <;> try split_ifs
    all_goals decide
  have hdash (cs : List Char) : separator '-' ('-' :: cs) = .ok ((), cs) :=
    separator_cons (by decide) cs
  have hcolon (cs : List Char) : separator ':' (':' :: cs) = .ok ((), cs) :=
    separator_cons (by decide) cs
  have hletter (cs : List Char) : dateTimeSeparator ('T' :: cs) = .ok ((), cs) := rfl
  have hmonth (cs : List Char) := ranged_padded hm1 hm12 (by omega) cs
  have hday (cs : List Char) := ranged_padded hd1 hd31 (by omega) cs
  have hhour (cs : List Char) := ranged_padded (Nat.zero_le h) hh (by omega) cs
  have hminute (cs : List Char) := ranged_padded (Nat.zero_le mi) hmi (by omega) cs
  have hsecond (cs : List Char) := ranged_padded (Nat.zero_le s) hs (by omega) cs
  have hzone : offset (trimStart ['Z']) = .ok (0, []) := rfl
  -- Each step reads one part and leaves the rest of the text to the next.
  unfold readLocal
  simp only [year_yearText hmin hmax, hdash, hmonth, hday, hletter, hhour, hcolon, hminute, hsecond,
    fraction_fractionText hn, hzone, bind, Except.bind]
  rfl

/-- What is shown of the second of a minute. -/
theorem shownSecond_spec (t : Instant) :
    t.shownSecond.1 ≤ 60 ∧ t.shownSecond.2 < nanosPerSecond ∧
      (if t.shownSecond.1 = 60 then 59 else t.shownSecond.1) = t.second % 60 ∧
      (if t.shownSecond.1 = 60 then t.shownSecond.2 + nanosPerSecond else t.shownSecond.2) =
        t.nano := by
  obtain ⟨-, -, hnano, hleap⟩ := t.valid
  have hnanos : nanosPerSecond = 1000000000 := rfl
  have hmod : t.second % 60 < 60 := Nat.mod_lt _ (by decide)
  unfold shownSecond
  by_cases h : nanosPerSecond ≤ t.nano
  · have h59 := hleap h
    rw [if_pos h, h59]
    exact ⟨le_rfl, by show t.nano - nanosPerSecond < _; omega, rfl, Nat.sub_add_cancel h⟩
  · have hne : t.second % 60 ≠ 60 := by omega
    rw [if_neg h]
    exact ⟨by show t.second % 60 ≤ 60; omega, Nat.lt_of_not_le h, if_neg hne, if_neg hne⟩

/-- The parts that are shown of an instant make up that instant. -/
theorem ofLocal_shown (t : Instant) :
    ofLocal ⟨Date.ofDays t.days, t.second / 3600, t.second / 60 % 60, t.shownSecond.1,
      t.shownSecond.2, 0⟩ = .ok t := by
  obtain ⟨hdate, hsecond, -, -⟩ := t.valid
  obtain ⟨-, -, hshown, hnano⟩ := shownSecond_spec t
  have hsecond' : t.second < 86400 := hsecond
  have hsum : ((t.second / 3600 : Nat) : Int) * 3600 + ((t.second / 60 % 60 : Nat) : Int) * 60 +
      (((if t.shownSecond.1 = 60 then 59 else t.shownSecond.1 : Nat) : Nat) : Int) - 0 =
        t.second := by
    rw [hshown]
    omega
  -- The second lies within the day, so no day is carried.
  have hday : (t.second : Int).fdiv secondsPerDay = 0 := by
    rw [Int.fdiv_eq_ediv_of_nonneg _ (by decide)]
    show (t.second : Int) / 86400 = 0
    omega
  have hrest : ((t.second : Int).fmod secondsPerDay).toNat = t.second := by
    rw [Int.fmod_eq_emod_of_nonneg _ (by decide)]
    show ((t.second : Int) % 86400).toNat = t.second
    omega
  have hoffset : ¬ ¬ (-(secondsPerDay : Int) < 0 ∧ (0 : Int) < secondsPerDay) := by decide
  unfold ofLocal
  rw [if_neg (not_not.2 hdate), if_neg hoffset]
  simp only [Nat.cast_ite] at hsum
  simp only [Nat.cast_ite, hsum, hday, hrest, hnano, Date.toDays_ofDays, Int.add_zero]
  exact dif_pos t.valid

/-- What is shown of an instant is read from its text. -/
theorem readLocal_render (t : Instant) : readLocal t.render =
    .ok ⟨Date.ofDays t.days, t.second / 3600, t.second / 60 % 60, t.shownSecond.1,
      t.shownSecond.2, 0⟩ := by
  obtain ⟨hdate, hsecond, -, -⟩ := t.valid
  obtain ⟨hs, hn, -, -⟩ := shownSecond_spec t
  have hsecond' : t.second < 86400 := hsecond
  rw [render_eq]
  exact readLocal_append hdate (by omega) (by omega : t.second / 60 % 60 ≤ 59) hs hn

/-- The text of an instant is read as that instant. -/
theorem ofText_toText (t : Instant) : ofText t.toText = .ok t := by
  unfold ofText
  rw [toText, String.toList_ofList, readLocal_render]
  exact ofLocal_shown t

theorem toText_injective {a b : Instant} (h : a.toText = b.toText) : a = b := by
  have hread := ofText_toText a
  rw [h, ofText_toText] at hread
  exact (Except.ok.inj hread).symm

end WebhookClient.Instant
