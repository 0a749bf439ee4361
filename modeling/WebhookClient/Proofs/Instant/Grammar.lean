import Mathlib
import WebhookClient.Proofs.Instant.Text

/-!
# What texts of instants say

The texts of instants as a grammar: a text `IsWritten` from a local date and time with an offset if
it is put together from parts that say each of them. Each step of the reader `TakesJust` what its
part is made of, and so the reader accepts just these texts and reads what they say. Main statement:
`readLocal_eq_ok_iff`.
-/

set_option autoImplicit false

namespace WebhookClient.Instant

open Decimal Text

/-! ## The parts of a text -/

/-- A run of digits that denotes a number. -/
structure IsDigits (ds : List Char) (n : Nat) : Prop where
  ne_nil : ds ≠ []
  isDigit : ∀ c ∈ ds, c.isDigit = true
  value_eq : value ds = n

/-- A year: up to four digits, or a sign and digits. -/
inductive IsYear : List Char → Int → Prop where
  | plain {ds : List Char} {n : Nat} (h : IsDigits ds n) (hlength : ds.length ≤ 4) : IsYear ds n
  | plus {ds : List Char} {n : Nat} (h : IsDigits ds n) : IsYear ('+' :: ds) n
  | minus {ds : List Char} {n : Nat} (h : IsDigits ds n) : IsYear ('-' :: ds) (-n)

/-- One or two digits. -/
def IsSmall (ds : List Char) (n : Nat) : Prop := IsDigits ds n ∧ ds.length ≤ 2

/-- The fraction of a second in nanoseconds: none, or a point and digits, which are cut. -/
inductive IsFraction : List Char → Nat → Prop where
  | none : IsFraction [] 0
  | point {ds : List Char} {n : Nat} (h : IsDigits ds n) :
      IsFraction ('.' :: ds) (n * nanosPerSecond / 10 ^ ds.length)

/-- The signs of an offset. -/
inductive IsSign : Char → Int → Prop where
  | plus : IsSign '+' 1
  | hyphen : IsSign '-' (-1)
  | minus : IsSign '−' (-1)

/-- An offset in seconds: that of UTC, or a sign with hours and minutes of two digits each. -/
inductive IsZone : List Char → Int → Prop where
  | zulu {c : Char} (h : c ∈ ['Z', 'z']) : IsZone [c] 0
  | utc {u t c : Char} (h : [u, t, c].map Char.toUpper = ['U', 'T', 'C']) : IsZone [u, t, c] 0
  | signed {c h₁ h₂ m₁ m₂ : Char} {gap : List Char} {sign : Int} {hours minutes : Nat}
      (hsign : IsSign c sign) (hhours : IsDigits [h₁, h₂] hours)
      (hgap : ∀ c ∈ gap, c = ':' ∨ isBlank c = true) (hminutes : IsDigits [m₁, m₂] minutes)
      (hlt : minutes < 60) :
      IsZone (c :: h₁ :: h₂ :: (gap ++ [m₁, m₂])) (sign * (hours * 3600 + minutes * 60))

/-- A part with blanks before it. -/
def AfterBlanks {α : Type} (Says : List Char → α → Prop) (cs : List Char) (a : α) : Prop :=
  ∃ blanks part, cs = blanks ++ part ∧ allBlank blanks = true ∧ Says part a

/-- A single character. -/
def IsMark (mark : Char) (cs : List Char) (_ : Unit) : Prop := cs = [mark]

/-- A text that says a date, a time of day and an offset, with blanks before numbers, before marks,
before the offset and at the end. -/
inductive IsWritten : List Char → Local → Prop where
  | mk {year dash₁ month dash₂ day : List Char} {middle : Char}
      {hour colon₁ minute colon₂ second fraction zone blanks : List Char} {l : Local}
      (hyear : AfterBlanks IsYear year l.date.year)
      (hdash₁ : AfterBlanks (IsMark '-') dash₁ ())
      (hmonth : AfterBlanks IsSmall month l.date.month)
      (hdash₂ : AfterBlanks (IsMark '-') dash₂ ())
      (hday : AfterBlanks IsSmall day l.date.day)
      (hmiddle : middle ∈ ['T', 't', ' '])
      (hhour : AfterBlanks IsSmall hour l.hour)
      (hcolon₁ : AfterBlanks (IsMark ':') colon₁ ())
      (hminute : AfterBlanks IsSmall minute l.minute)
      (hcolon₂ : AfterBlanks (IsMark ':') colon₂ ())
      (hsecond : AfterBlanks IsSmall second l.second)
      (hfraction : IsFraction fraction l.nano)
      (hzone : AfterBlanks IsZone zone l.offset)
      (hblanks : allBlank blanks = true) :
      IsWritten (year ++ (dash₁ ++ (month ++ (dash₂ ++ (day ++ middle :: (hour ++ (colon₁ ++
        (minute ++ (colon₂ ++ (second ++ (fraction ++ (zone ++ blanks)))))))))))) l

/-! ## What stands after a part -/

/-- The text does not start with one of these characters. -/
def StartsBeside (chars : Char → Bool) (cs : List Char) : Prop :=
  (cs.head?.all fun c => !chars c) = true

section

variable {chars : Char → Bool} {cs ds : List Char} {c : Char}

theorem startsBeside_cons_iff : StartsBeside chars (c :: cs) ↔ chars c = false := by
  simp [StartsBeside]

theorem StartsBeside.append (hds : ∀ c ∈ ds, chars c = false) (hcs : StartsBeside chars cs) :
    StartsBeside chars (ds ++ cs) := by
  cases ds with
  | nil => exact hcs
  | cons d ds => exact startsBeside_cons_iff.2 (hds d List.mem_cons_self)

/-- What starts with a part after blanks starts neither with a digit nor a point if the part starts
with neither. -/
theorem startsBeside_afterBlanks {α : Type} {Says : List Char → α → Prop} {a : α}
    (hblank : ∀ c, isBlank c = true → chars c = false)
    (hpart : ∀ part, Says part a → ∃ c rest, part = c :: rest ∧ chars c = false)
    (h : AfterBlanks Says ds a) : StartsBeside chars (ds ++ cs) := by
  obtain ⟨blanks, part, rfl, hblanks, hsaid⟩ := h
  obtain ⟨c, rest, rfl, hc⟩ := hpart part hsaid
  rw [List.append_assoc]
  exact .append (fun b hb => hblank b (List.all_eq_true.1 hblanks b hb))
    (startsBeside_cons_iff.2 hc)

theorem isDigit_of_isBlank (h : isBlank c = true) : c.isDigit = false := by
  by_contra hdigit
  rw [isBlank_of_isDigit (Bool.not_eq_false _ ▸ hdigit)] at h
  cases h

end

/-! ## Steps -/

/-- A step takes from the front of a text a part that says what it reads; and it takes a part if
what follows does not start with one of the characters that would belong to it. -/
structure TakesJust {α : Type} (step : Step α) (Says : List Char → α → Prop)
    (chars : Char → Bool) : Prop where
  sound : ∀ {cs rest : List Char} {a : α}, step cs = .ok (a, rest) →
    ∃ part, cs = part ++ rest ∧ Says part a
  complete : ∀ {part rest : List Char} {a : α}, Says part a → StartsBeside chars rest →
    step (part ++ rest) = .ok (a, rest)

theorem trimStart_append {blanks : List Char} (h : allBlank blanks = true) (cs : List Char) :
    trimStart (blanks ++ cs) = trimStart cs :=
  List.dropWhile_append_of_pos (List.all_eq_true.1 h)

theorem exists_eq_append_trimStart (cs : List Char) :
    ∃ blanks, cs = blanks ++ trimStart cs ∧ allBlank blanks = true :=
  ⟨cs.takeWhile isBlank, List.takeWhile_append_dropWhile.symm,
    List.all_eq_true.2 fun _ hc => List.mem_takeWhile_imp hc⟩

/-- A step that leaves out blanks takes the blanks along with its part. -/
theorem TakesJust.afterBlanks {α : Type} {step : Step α} {Says : List Char → α → Prop}
    {chars : Char → Bool} (h : TakesJust step Says chars)
    (hpart : ∀ part a, Says part a → ∃ c rest, part = c :: rest ∧ isBlank c = false) :
    TakesJust (fun cs => step (trimStart cs)) (AfterBlanks Says) chars where
  sound {cs rest a} hstep := by
    obtain ⟨part, hcs, hsaid⟩ := h.sound hstep
    obtain ⟨blanks, htrim, hblanks⟩ := exists_eq_append_trimStart cs
    refine ⟨blanks ++ part, ?_, blanks, part, rfl, hblanks, hsaid⟩
    rw [List.append_assoc, ← hcs, ← htrim]
  complete {taken rest a} hsaid hrest := by
    obtain ⟨blanks, part, rfl, hblanks, hsaid⟩ := hsaid
    obtain ⟨c, tail, rfl, hc⟩ := hpart part a hsaid
    show step (trimStart _) = _
    rw [List.append_assoc, trimStart_append hblanks, List.cons_append,
      trimStart_of_not_isBlank hc]
    exact h.complete hsaid hrest

/-- A step that looks at what it has read. -/
theorem TakesJust.checked {α : Type} {step : Step α} {Says : List Char → α → Prop}
    {chars : Char → Bool} (h : TakesJust step Says chars) (p : α → Prop) [DecidablePred p]
    (e : ReadError) :
    TakesJust (fun cs => step cs >>= fun r => if p r.1 then .ok (r.1, r.2) else .error e)
      (fun cs a => Says cs a ∧ p a) chars where
  sound {cs rest a} hstep := by
    obtain ⟨⟨b, tail⟩, hread, hstep⟩ := bind_eq_ok_iff.1 hstep
    obtain ⟨part, hcs, hsaid⟩ := h.sound hread
    dsimp only at hstep
    split_ifs at hstep with hp
    cases hstep
    exact ⟨part, hcs, hsaid, hp⟩
  complete {part rest a} hsaid hrest :=
    bind_eq_ok_iff.2 ⟨(a, rest), h.complete hsaid.1 hrest, if_pos hsaid.2⟩

/-! ### Numbers -/

/-- A number is read from the digits that stand there. -/
theorem exists_of_number {width : Option Nat} {cs rest : List Char} {n : Nat}
    (h : number width cs = .ok (n, rest)) : ∃ ds, cs = ds ++ rest ∧ IsDigits ds n ∧
      (∀ w ∈ width, ds.length ≤ w) ∧ n ≤ maxNumber := by
  -- With a width or without one, the digits are looked for in a front of the text.
  obtain ⟨front, hfront, hwidth, hnumber⟩ : ∃ front : List Char, front <+: cs ∧
      (∀ w ∈ width, front.length ≤ w) ∧ number width cs =
        (let ds := front.takeWhile Char.isDigit
         if cs.isEmpty then .error .tooShort
         else if ds.isEmpty then .error .invalidCharacter
         else if maxNumber < value ds then .error .outOfRange
         else .ok (value ds, cs.drop ds.length)) := by
    cases width with
    | none => exact ⟨cs, List.prefix_rfl, by rintro _ ⟨⟩, rfl⟩
    | some w =>
      refine ⟨cs.take w, List.take_prefix w cs, ?_, rfl⟩
      rintro _ ⟨⟩
      exact List.length_take_le w cs
  rw [hnumber] at h
  have hfirst := List.takeWhile_prefix (l := front) Char.isDigit
  dsimp only at h
  split_ifs at h with _ hempty hmax
  cases h
  refine ⟨front.takeWhile Char.isDigit, (List.prefix_iff_eq_append.1 (hfirst.trans hfront)).symm,
    ⟨fun hnil => hempty (by rw [hnil]; rfl), fun c hc => List.mem_takeWhile_imp hc, rfl⟩, ?_,
    Nat.le_of_not_lt hmax⟩
  exact fun w hw => hfirst.length_le.trans (hwidth w hw)

theorem number_of_isDigits {width : Option Nat} {ds rest : List Char} {n : Nat}
    (hds : IsDigits ds n) (hn : n ≤ maxNumber) (hwidth : ∀ w ∈ width, ds.length ≤ w)
    (hrest : StartsBeside Char.isDigit rest) : number width (ds ++ rest) = .ok (n, rest) := by
  obtain ⟨hne, hdigit, rfl⟩ := hds
  exact number_append hdigit hne hn hwidth (.inr hrest)

theorem IsDigits.exists_cons {ds : List Char} {n : Nat} (h : IsDigits ds n) :
    ∃ c rest, ds = c :: rest ∧ c.isDigit = true := by
  obtain ⟨c, rest, rfl⟩ := List.exists_cons_of_ne_nil h.ne_nil
  exact ⟨c, rest, rfl, h.isDigit c List.mem_cons_self⟩

/-- A number of few digits is small. -/
theorem IsDigits.le_maxNumber {ds : List Char} {n : Nat} (h : IsDigits ds n)
    (hlength : ds.length ≤ 9) : n ≤ maxNumber := by
  have hlt := value_lt h.isDigit
  have hpow : 10 ^ ds.length ≤ 10 ^ 9 := Nat.pow_le_pow_right (by decide) hlength
  have hmax : 10 ^ 9 ≤ maxNumber := by decide
  rw [h.value_eq] at hlt
  omega

theorem takesJust_small : TakesJust (number (some 2)) IsSmall Char.isDigit where
  sound h := by
    obtain ⟨ds, hcs, hds, hwidth, -⟩ := exists_of_number h
    exact ⟨ds, hcs, hds, hwidth 2 rfl⟩
  complete h hrest := by
    have hlength := h.2
    refine number_of_isDigits h.1 (h.1.le_maxNumber (by omega)) ?_ hrest
    rintro _ ⟨⟩
    exact hlength

theorem IsSmall.exists_cons {ds : List Char} {n : Nat} (h : IsSmall ds n) :
    ∃ c rest, ds = c :: rest ∧ isBlank c = false := by
  obtain ⟨c, rest, hds, hc⟩ := h.1.exists_cons
  exact ⟨c, rest, hds, isBlank_of_isDigit hc⟩

/-- A number of one or two digits in a range. -/
theorem takesJust_ranged (lo hi : Nat) : TakesJust (ranged lo hi)
    (fun cs n => AfterBlanks IsSmall cs n ∧ lo ≤ n ∧ n ≤ hi) Char.isDigit :=
  (takesJust_small.afterBlanks fun _ _ => IsSmall.exists_cons).checked (fun n => lo ≤ n ∧ n ≤ hi)
    .outOfRange

/-! ### Years -/

/-- The number of a year before its range is looked at. -/
def yearNumber : Step Int
  | '-' :: r => do
    let (n, rest) ← number none r
    .ok (-(n : Int), rest)
  | '+' :: r => do
    let (n, rest) ← number none r
    .ok ((n : Int), rest)
  | r => do
    let (n, rest) ← number (some 4) r
    .ok ((n : Int), rest)

theorem year_eq : year = fun cs => yearNumber (trimStart cs) >>= fun r =>
    if -2147483648 ≤ r.1 ∧ r.1 ≤ 2147483647 then .ok (r.1, r.2) else .error .outOfRange :=
  rfl

theorem takesJust_yearNumber : TakesJust yearNumber
    (fun cs y => IsYear cs y ∧ y.natAbs ≤ maxNumber) Char.isDigit where
  sound {cs rest y} h := by
    unfold yearNumber at h
    split at h
    all_goals
      obtain ⟨⟨n, tail⟩, hnumber, h⟩ := bind_eq_ok_iff.1 h
      cases h
      obtain ⟨ds, rfl, hds, hwidth, hmax⟩ := exists_of_number hnumber
    · exact ⟨'-' :: ds, rfl, .minus hds, by omega⟩
    · exact ⟨'+' :: ds, rfl, .plus hds, by omega⟩
    · exact ⟨ds, rfl, .plain hds (hwidth 4 rfl), by omega⟩
  complete {part rest y} h hrest := by
    obtain ⟨hyear, hmax⟩ := h
    cases hyear with
    | @plain ds n hds hlength =>
      have hnumber : number (some 4) (part ++ rest) = .ok (n, rest) :=
        number_of_isDigits hds (by omega) (by rintro _ ⟨⟩; exact hlength) hrest
      obtain ⟨c, tail, rfl, hc⟩ := hds.exists_cons
      unfold yearNumber
      split
      · next heq =>
        cases heq
        cases hc
      · next heq =>
        cases heq
        cases hc
      · exact bind_eq_ok_iff.2 ⟨_, hnumber, rfl⟩
    | @plus ds n hds =>
      have hnumber : number none (ds ++ rest) = .ok (n, rest) :=
        number_of_isDigits hds (by omega) (by rintro _ ⟨⟩) hrest
      exact bind_eq_ok_iff.2 ⟨_, hnumber, rfl⟩
    | @minus ds n hds =>
      have hnumber : number none (ds ++ rest) = .ok (n, rest) :=
        number_of_isDigits hds (by omega) (by rintro _ ⟨⟩) hrest
      exact bind_eq_ok_iff.2 ⟨_, hnumber, rfl⟩

theorem IsYear.exists_cons {cs : List Char} {y : Int} (h : IsYear cs y) :
    ∃ c rest, cs = c :: rest ∧ isBlank c = false := by
  cases h with
  | plain hds _ =>
    obtain ⟨c, rest, hcs, hc⟩ := hds.exists_cons
    exact ⟨c, rest, hcs, isBlank_of_isDigit hc⟩
  | plus _ => exact ⟨_, _, rfl, by decide⟩
  | minus _ => exact ⟨_, _, rfl, by decide⟩

theorem takesJust_year : TakesJust year
    (fun cs y => AfterBlanks IsYear cs y ∧ -2147483648 ≤ y ∧ y ≤ 2147483647) Char.isDigit := by
  have h := (takesJust_yearNumber.afterBlanks fun _ _ h => h.1.exists_cons).checked
    (fun y => -2147483648 ≤ y ∧ y ≤ 2147483647) .outOfRange
  have hmax : maxNumber = 9223372036854775807 := rfl
  rw [year_eq]
  constructor
  · intro cs rest y hstep
    obtain ⟨part, hcs, ⟨blanks, digits, hpart, hblanks, hyear, -⟩, hrange⟩ := h.sound hstep
    exact ⟨part, hcs, ⟨blanks, digits, hpart, hblanks, hyear⟩, hrange⟩
  · rintro part rest y ⟨⟨blanks, digits, hpart, hblanks, hyear⟩, hrange⟩ hrest
    exact h.complete ⟨⟨blanks, digits, hpart, hblanks, hyear, by omega⟩, hrange⟩ hrest

/-! ### Marks -/

/-- A mark takes itself, whatever follows. -/
theorem takesJust_separator (mark : Char) (hmark : isBlank mark = false) :
    TakesJust (separator mark) (AfterBlanks (IsMark mark)) fun _ => false where
  sound {cs rest _} h := by
    obtain ⟨blanks, hcs, hblanks⟩ := exists_eq_append_trimStart cs
    unfold separator at h
    cases htrim : trimStart cs with
    | nil =>
      rw [htrim] at h
      cases h
    | cons d tail =>
      rw [htrim] at h
      dsimp only at h
      split_ifs at h with hd
      cases h
      refine ⟨blanks ++ [mark], ?_, blanks, [mark], rfl, hblanks, rfl⟩
      rw [hcs, htrim, hd, List.append_assoc, List.singleton_append]
  complete {part rest _} h _ := by
    obtain ⟨blanks, _, rfl, hblanks, rfl⟩ := h
    unfold separator
    rw [List.append_assoc, trimStart_append hblanks, List.singleton_append,
      trimStart_of_not_isBlank hmark]
    exact if_pos rfl

theorem takesJust_dash : TakesJust (separator '-') (AfterBlanks (IsMark '-')) fun _ => false :=
  takesJust_separator '-' (by decide)

theorem takesJust_colon : TakesJust (separator ':') (AfterBlanks (IsMark ':')) fun _ => false :=
  takesJust_separator ':' (by decide)

theorem dateTimeSeparator_eq_ok_iff {cs rest : List Char} :
    dateTimeSeparator cs = .ok ((), rest) ↔ ∃ c ∈ ['T', 't', ' '], cs = c :: rest := by
  cases cs with
  | nil => exact iff_of_false nofun (by simp)
  | cons c tail =>
    unfold dateTimeSeparator
    dsimp only
    split_ifs with hc
    · simp only [Except.ok.injEq, Prod.mk.injEq, true_and, List.cons.injEq]
      constructor
      · rintro rfl
        exact ⟨c, by simpa [or_assoc] using hc, rfl, rfl⟩
      · rintro ⟨_, -, -, rfl⟩
        rfl
    · refine iff_of_false nofun ?_
      rintro ⟨d, hd, heq⟩
      cases heq
      exact hc (by simpa [or_assoc] using hd)

theorem isDigit_of_middle {c : Char} (h : c ∈ ['T', 't', ' ']) : c.isDigit = false := by
  simp only [List.mem_cons, List.not_mem_nil, or_false] at h
  obtain rfl | rfl | rfl := h <;> rfl

/-! ### Fractions -/

/-- Digits beyond the ninth do not count towards nanoseconds. -/
theorem value_cut {ds : List Char} (h : ∀ c ∈ ds, c.isDigit = true) :
    value (ds.take 9) * 10 ^ (9 - (ds.take 9).length) = value ds * 10 ^ 9 / 10 ^ ds.length := by
  obtain hle | hgt := le_or_gt ds.length 9
  · have hpow : 10 ^ 9 = 10 ^ (9 - ds.length) * 10 ^ ds.length := by
      rw [← pow_add, Nat.sub_add_cancel hle]
    rw [List.take_of_length_le hle, hpow, ← mul_assoc, Nat.mul_div_cancel _ (by positivity)]
  · have htake : (ds.take 9).length = 9 := by rw [List.length_take]; omega
    have hdrop : (ds.drop 9).length = ds.length - 9 := List.length_drop
    have hlow : value (ds.drop 9) < 10 ^ (ds.drop 9).length :=
      value_lt fun c hc => h c (List.mem_of_mem_drop hc)
    have hpow : 10 ^ ds.length = 10 ^ (ds.length - 9) * 10 ^ 9 := by
      rw [← pow_add, Nat.sub_add_cancel hgt.le]
    have hvalue := value_append (ds.take 9) (ds.drop 9)
    rw [List.take_append_drop] at hvalue
    rw [htake, hpow, Nat.mul_div_mul_right _ _ (by positivity), hvalue, hdrop, Nat.sub_self,
      pow_zero, mul_one]
    rw [hdrop] at hlow
    rw [Nat.mul_comm, Nat.mul_add_div (by positivity), Nat.div_eq_of_lt hlow, Nat.add_zero]

/-- All digits after the point are taken. -/
theorem fraction_point (r : List Char) : fraction ('.' :: r) =
    (let ds := r.takeWhile Char.isDigit
     if r.isEmpty then .error .tooShort
     else if ds.isEmpty then .error .invalidCharacter
     else .ok (value ds * nanosPerSecond / 10 ^ ds.length, r.dropWhile Char.isDigit)) := by
  have hall : ∀ c ∈ r.takeWhile Char.isDigit, c.isDigit = true := fun c hc =>
    List.mem_takeWhile_imp hc
  have hfront : (r.take 9).takeWhile Char.isDigit = (r.takeWhile Char.isDigit).take 9 :=
    List.take_takeWhile.symm
  -- The first nine digits, and what is left after them.
  obtain ⟨front, hdef⟩ : ∃ front, (r.takeWhile Char.isDigit).take 9 = front := ⟨_, rfl⟩
  have hfirst : front <+: r := by
    rw [← hdef]
    exact (List.take_prefix _ _).trans (List.takeWhile_prefix _)
  have hdigits : ∀ c ∈ front, c.isDigit = true := fun c hc =>
    hall c (List.mem_of_mem_take (hdef ▸ hc))
  have hempty : front.isEmpty = (r.takeWhile Char.isDigit).isEmpty := by
    rw [← hdef]
    cases r.takeWhile Char.isDigit <;> rfl
  have hmax : ¬ maxNumber < value front := by
    have hlength : front.length ≤ 9 := by
      rw [← hdef]
      exact List.length_take_le _ _
    have hlt := (value_lt hdigits).trans_le (Nat.pow_le_pow_right (by decide : 0 < 10) hlength)
    have hbound : 10 ^ 9 ≤ maxNumber := by decide
    omega
  have hplaces : r.length - (r.drop front.length).length = front.length := by
    have := hfirst.length_le
    rw [List.length_drop]
    omega
  have hrest : (r.drop front.length).dropWhile Char.isDigit = r.dropWhile Char.isDigit := by
    conv_rhs => rw [← List.prefix_iff_eq_append.1 hfirst]
    exact (List.dropWhile_append_of_pos hdigits).symm
  have hnumber : number (some 9) r =
      if r.isEmpty then .error .tooShort
      else if front.isEmpty then .error .invalidCharacter
      else .ok (value front, r.drop front.length) := by
    unfold number
    dsimp only
    rw [hfront, hdef, if_neg hmax]
  show (number (some 9) r >>= fun p => Except.ok (p.1 * 10 ^ (9 - (r.length - p.2.length)),
    p.2.dropWhile Char.isDigit)) = _
  rw [hnumber, hempty]
  dsimp only
  split_ifs
  · rfl
  · rfl
  · show Except.ok (value front * 10 ^ (9 - (r.length - (r.drop front.length).length)),
      (r.drop front.length).dropWhile Char.isDigit) = _
    rw [hplaces, hrest, ← hdef, value_cut hall]
    rfl

theorem takesJust_fraction :
    TakesJust fraction IsFraction fun c => c.isDigit || c = '.' where
  sound {cs rest n} h := by
    by_cases hpoint : ∃ r, cs = '.' :: r
    · obtain ⟨r, rfl⟩ := hpoint
      rw [fraction_point] at h
      dsimp only at h
      split_ifs at h with _ hempty
      cases h
      have hdigits : IsDigits (r.takeWhile Char.isDigit) (value (r.takeWhile Char.isDigit)) :=
        ⟨fun hnil => hempty (by rw [hnil]; rfl), fun c hc => List.mem_takeWhile_imp hc, rfl⟩
      exact ⟨_, congrArg ('.' :: ·) List.takeWhile_append_dropWhile.symm, .point hdigits⟩
    · unfold fraction at h
      split at h
      · exact absurd ⟨_, rfl⟩ hpoint
      · cases h
        exact ⟨[], rfl, .none⟩
  complete {part rest n} h hrest := by
    cases h with
    | none =>
      -- What follows does not start with a point, so there is no fraction to take.
      cases rest with
      | nil => rfl
      | cons c tail =>
        have hc := startsBeside_cons_iff.1 hrest
        rw [List.nil_append]
        unfold fraction
        split
        · next heq =>
          cases heq
          cases hc
        · rfl
    | @point ds m hds =>
      have hstop : (rest.head?.all fun c => !c.isDigit) = true := by
        cases rest with
        | nil => rfl
        | cons c tail =>
          have hc := startsBeside_cons_iff.1 hrest
          rw [Bool.or_eq_false_iff] at hc
          exact startsBeside_cons_iff.2 hc.1
      obtain ⟨htake, hdrop⟩ := takeWhile_isDigit_append hds.isDigit hstop
      obtain ⟨c, tail, rfl, -⟩ := hds.exists_cons
      rw [List.cons_append, fraction_point, htake, hdrop]
      dsimp only
      rw [hds.value_eq]
      rfl

/-! ### Offsets -/

theorem twoDigits_eq_ok_iff {most : Char} {cs rest : List Char} {n : Nat} :
    twoDigits most cs = .ok (n, rest) ↔
      ∃ a b, cs = a :: b :: rest ∧ IsDigits [a, b] n ∧ a ≤ most := by
  have hpair : ∀ a b tail, twoDigits most (a :: b :: tail) =
      if a.isDigit && b.isDigit then
        if a ≤ most then .ok (value [a, b], tail) else .error .outOfRange
      else .error .invalidCharacter := fun _ _ _ => rfl
  constructor
  · intro h
    match cs with
    | [] => cases h
    | [a] =>
      unfold twoDigits at h
      dsimp only at h
      split_ifs at h
    | a :: b :: tail =>
      rw [hpair] at h
      split_ifs at h with hdigits hmost
      cases h
      rw [Bool.and_eq_true] at hdigits
      exact ⟨a, b, rfl, ⟨List.cons_ne_nil _ _, by simpa using hdigits, rfl⟩, hmost⟩
  · rintro ⟨a, b, rfl, ⟨-, hdigits, rfl⟩, hmost⟩
    have hboth : (a.isDigit && b.isDigit) = true := by simpa using hdigits
    rw [hpair, if_pos hboth, if_pos hmost]

/-- A first digit up to five is that of a number below sixty. -/
theorem le_five_iff {a b : Char} {n : Nat} (h : IsDigits [a, b] n) : a ≤ '5' ↔ n < 60 := by
  obtain ⟨-, hdigits, rfl⟩ := h
  have ha := toNat_sub_le_of_isDigit (hdigits a (by simp))
  have hb := toNat_sub_le_of_isDigit (hdigits b (by simp))
  have hle : a ≤ '5' ↔ a.toNat ≤ 53 := Iff.rfl
  have hvalue : value [a, b] = 10 * (10 * 0 + (a.toNat - 48)) + (b.toNat - 48) := rfl
  have hzero : '0'.toNat = 48 := rfl
  rw [hle, hvalue]
  omega

theorem le_nine_of_isDigits {a b : Char} {n : Nat} (h : IsDigits [a, b] n) : a ≤ '9' := by
  have ha := h.isDigit a (by simp)
  simp only [Char.isDigit, Bool.and_eq_true, decide_eq_true_eq] at ha
  exact ha.2

theorem offsetSign_eq_ok_iff {cs rest : List Char} {sign : Int} :
    offsetSign cs = .ok (sign, rest) ↔ ∃ c, cs = c :: rest ∧ IsSign c sign := by
  constructor
  · intro h
    unfold offsetSign at h
    split at h
    · cases h
    · cases h
      exact ⟨_, rfl, .plus⟩
    · cases h
      exact ⟨_, rfl, .hyphen⟩
    · cases h
      exact ⟨_, rfl, .minus⟩
    · cases h
  · rintro ⟨c, rfl, hsign⟩
    cases hsign <;> rfl

/-- The characters between the hours and the minutes of an offset. -/
def isGap (c : Char) : Bool := c = ':' || isBlank c

theorem signed_eq_ok_iff {cs rest : List Char} {off : Int} :
    offset.signed cs = .ok (off, rest) ↔
      ∃ c h₁ h₂ m₁ m₂ gap sign hours minutes, IsSign c sign ∧ IsDigits [h₁, h₂] hours ∧
        (∀ c ∈ gap, isGap c = true) ∧ IsDigits [m₁, m₂] minutes ∧ minutes < 60 ∧
        cs = c :: h₁ :: h₂ :: (gap ++ m₁ :: m₂ :: rest) ∧
        off = sign * (hours * 3600 + minutes * 60) := by
  constructor
  · intro h
    obtain ⟨⟨sign, cs₁⟩, hfirst, h⟩ := bind_eq_ok_iff.1 h
    obtain ⟨⟨hours, cs₂⟩, hsecond, h⟩ := bind_eq_ok_iff.1 h
    obtain ⟨⟨minutes, cs₃⟩, hthird, h⟩ := bind_eq_ok_iff.1 h
    cases h
    obtain ⟨c, rfl, hsign⟩ := offsetSign_eq_ok_iff.1 hfirst
    obtain ⟨h₁, h₂, rfl, hhours, -⟩ := twoDigits_eq_ok_iff.1 hsecond
    obtain ⟨m₁, m₂, hcs₂, hminutes, hfive⟩ := twoDigits_eq_ok_iff.1 hthird
    refine ⟨c, h₁, h₂, m₁, m₂, cs₂.takeWhile isGap, sign, hours, minutes, hsign, hhours,
      fun c hc => List.mem_takeWhile_imp hc, hminutes, (le_five_iff hminutes).1 hfive, ?_, rfl⟩
    rw [← hcs₂]
    exact congrArg (c :: h₁ :: h₂ :: ·) List.takeWhile_append_dropWhile.symm
  · rintro ⟨c, h₁, h₂, m₁, m₂, gap, sign, hours, minutes, hsign, hhours, hgap, hminutes, hlt, rfl,
      rfl⟩
    have hm₁ : isGap m₁ = false := by
      have hdigit := hminutes.isDigit m₁ (by simp)
      have hcolon : m₁ ≠ ':' := fun heq => by
        subst heq
        cases hdigit
      rw [isGap, decide_eq_false hcolon, isBlank_of_isDigit hdigit]
      rfl
    have hdrop : (gap ++ m₁ :: m₂ :: rest).dropWhile isGap = m₁ :: m₂ :: rest := by
      rw [List.dropWhile_append_of_pos hgap]
      exact List.dropWhile_cons_of_neg (by rw [hm₁]; exact Bool.false_ne_true)
    refine bind_eq_ok_iff.2 ⟨_, offsetSign_eq_ok_iff.2 ⟨c, rfl, hsign⟩, bind_eq_ok_iff.2 ⟨_,
      twoDigits_eq_ok_iff.2 ⟨h₁, h₂, rfl, hhours, le_nine_of_isDigits hhours⟩,
      bind_eq_ok_iff.2 ⟨(minutes, rest), twoDigits_eq_ok_iff.2 ⟨m₁, m₂, hdrop, hminutes, ?_⟩, rfl⟩⟩⟩
    exact (le_five_iff hminutes).2 hlt

theorem isGap_iff {c : Char} : isGap c = true ↔ c = ':' ∨ isBlank c = true := by
  simp [isGap]

theorem takesJust_offset : TakesJust offset IsZone fun _ => false where
  sound {cs rest off} h := by
    have hsigned : ∀ {cs : List Char}, offset.signed cs = .ok (off, rest) →
        ∃ part, cs = part ++ rest ∧ IsZone part off := by
      intro cs h
      obtain ⟨c, h₁, h₂, m₁, m₂, gap, sign, hours, minutes, hsign, hhours, hgap, hminutes, hlt, rfl,
        rfl⟩ := signed_eq_ok_iff.1 h
      refine ⟨c :: h₁ :: h₂ :: (gap ++ [m₁, m₂]), by simp, ?_⟩
      exact .signed hsign hhours (fun c hc => isGap_iff.1 (hgap c hc)) hminutes hlt
    unfold offset at h
    split at h
    · cases h
      exact ⟨['Z'], rfl, .zulu (by decide)⟩
    · cases h
      exact ⟨['z'], rfl, .zulu (by decide)⟩
    · split_ifs at h with hutc
      · cases h
        exact ⟨_, rfl, .utc hutc⟩
      · exact hsigned h
    · exact hsigned h
  complete {part rest off} h _ := by
    cases h with
    | @zulu c hc =>
      obtain rfl | hc := List.mem_cons.1 hc
      · rfl
      · cases List.mem_singleton.1 hc
        rfl
    | @utc u t c hutc =>
      -- The first letter is not the one that stands alone.
      show offset (u :: t :: c :: rest) = _
      unfold offset
      split
      · next heq =>
        cases heq
        cases (List.cons.inj hutc).1
      · next heq =>
        cases heq
        cases (List.cons.inj hutc).1
      · next heq =>
        cases heq
        exact if_pos hutc
      · next hother => exact absurd rfl (hother u t c rest)
    | @signed c h₁ h₂ m₁ m₂ gap sign hours minutes hsign hhours hgap hminutes hlt =>
      have hread : offset.signed (c :: h₁ :: h₂ :: (gap ++ m₁ :: m₂ :: rest)) =
          .ok (sign * (hours * 3600 + minutes * 60), rest) :=
        signed_eq_ok_iff.2 ⟨c, h₁, h₂, m₁, m₂, gap, sign, hours, minutes, hsign, hhours,
          fun c hc => isGap_iff.2 (hgap c hc), hminutes, hlt, rfl, rfl⟩
      have hcs : c :: h₁ :: h₂ :: (gap ++ [m₁, m₂]) ++ rest =
          c :: h₁ :: h₂ :: (gap ++ m₁ :: m₂ :: rest) := by simp
      -- A sign is no letter, so the text is not taken for one of UTC.
      rw [hcs]
      cases hsign
      all_goals exact hread

theorem eq_of_toUpper_eq_U {c : Char} (h : c.toUpper = 'U') : c = 'U' ∨ c = 'u' := by
  unfold Char.toUpper at h
  split_ifs at h with hlower
  · right
    obtain ⟨hlow, hhigh⟩ := hlower
    have hval := congrArg (fun d : Char => d.val.toNat) h
    have hletter : 'U'.val.toNat = 85 := rfl
    have hshift : ('A'.val - 'a'.val).toNat = 4294967264 := by decide
    dsimp only at hval
    rw [UInt32.toNat_add, hshift, hletter] at hval
    have hlow' : 97 ≤ c.val.toNat := hlow
    have hhigh' : c.val.toNat ≤ 122 := hhigh
    have hnat : c.toNat = 'u'.toNat := by
      show c.val.toNat = 117
      omega
    exact Char.toNat_inj.1 hnat
  · exact .inl h

/-- An offset starts with a character that belongs to no part before it. -/
theorem IsZone.exists_cons {cs : List Char} {off : Int} (h : IsZone cs off) :
    ∃ c rest, cs = c :: rest ∧ isBlank c = false ∧ (c.isDigit || c = '.') = false := by
  cases h with
  | zulu hc =>
    refine ⟨_, _, rfl, ?_⟩
    obtain rfl | hc := List.mem_cons.1 hc
    · decide
    · cases List.mem_singleton.1 hc
      decide
  | utc hutc =>
    refine ⟨_, _, rfl, ?_⟩
    obtain rfl | rfl := eq_of_toUpper_eq_U (List.cons.inj hutc).1
    · decide
    · decide
  | signed hsign =>
    refine ⟨_, _, rfl, ?_⟩
    cases hsign <;> decide

theorem takesJust_zone :
    TakesJust (fun cs => offset (trimStart cs)) (AfterBlanks IsZone) fun _ => false :=
  takesJust_offset.afterBlanks fun _ _ h => by
    obtain ⟨c, rest, hcs, hc, -⟩ := h.exists_cons
    exact ⟨c, rest, hcs, hc⟩

/-! ## Whole texts -/

/-- The parts of a text are in the ranges that the reader takes them in. -/
structure Local.InRange (l : Local) : Prop where
  year : -2147483648 ≤ l.date.year ∧ l.date.year ≤ 2147483647
  month : 1 ≤ l.date.month ∧ l.date.month ≤ 12
  day : 1 ≤ l.date.day ∧ l.date.day ≤ 31
  hour : l.hour ≤ 23
  minute : l.minute ≤ 59
  second : l.second ≤ 60

section

variable {chars : Char → Bool} {ds cs : List Char}

/-- A mark ends a run of digits before it. -/
theorem startsBeside_mark {mark : Char} (hmark : mark.isDigit = false)
    (h : AfterBlanks (IsMark mark) ds ()) : StartsBeside Char.isDigit (ds ++ cs) :=
  startsBeside_afterBlanks (fun _ => isDigit_of_isBlank) (fun _ hpart => ⟨mark, [], hpart, hmark⟩) h

/-- An offset ends a fraction before it. -/
theorem startsBeside_zone {off : Int} (h : AfterBlanks IsZone ds off) :
    StartsBeside (fun c => c.isDigit || c = '.') (ds ++ cs) := by
  refine startsBeside_afterBlanks (fun c hc => ?_) (fun _ hpart => ?_) h
  · have hpoint : c ≠ '.' := fun heq => by
      subst heq
      revert hc
      decide
    rw [isDigit_of_isBlank hc, decide_eq_false hpoint]
    rfl
  · obtain ⟨c, rest, hcs, -, hc⟩ := hpart.exists_cons
    exact ⟨c, rest, hcs, hc⟩

/-- A fraction, or what follows where there is none, ends a run of digits before it. -/
theorem startsBeside_fraction {n : Nat} (h : IsFraction ds n)
    (hcs : StartsBeside (fun c => c.isDigit || c = '.') cs) :
    StartsBeside Char.isDigit (ds ++ cs) := by
  cases h with
  | none =>
    cases cs with
    | nil => rfl
    | cons c cs =>
      have hc := startsBeside_cons_iff.1 hcs
      exact startsBeside_cons_iff.2 (Bool.or_eq_false_iff.1 hc).1
  | point _ => exact startsBeside_cons_iff.2 (by decide)

end

/-- What has been read is put together from the parts that the steps have taken. -/
theorem isWritten_of_readLocal {cs : List Char} {l : Local} (h : readLocal cs = .ok l) :
    IsWritten cs l ∧ l.InRange := by
  obtain ⟨⟨year, cs₁⟩, h₁, h⟩ := bind_eq_ok_iff.1 h
  obtain ⟨⟨_, cs₂⟩, h₂, h⟩ := bind_eq_ok_iff.1 h
  obtain ⟨⟨month, cs₃⟩, h₃, h⟩ := bind_eq_ok_iff.1 h
  obtain ⟨⟨_, cs₄⟩, h₄, h⟩ := bind_eq_ok_iff.1 h
  obtain ⟨⟨day, cs₅⟩, h₅, h⟩ := bind_eq_ok_iff.1 h
  obtain ⟨⟨_, cs₆⟩, h₆, h⟩ := bind_eq_ok_iff.1 h
  obtain ⟨⟨hour, cs₇⟩, h₇, h⟩ := bind_eq_ok_iff.1 h
  obtain ⟨⟨_, cs₈⟩, h₈, h⟩ := bind_eq_ok_iff.1 h
  obtain ⟨⟨minute, cs₉⟩, h₉, h⟩ := bind_eq_ok_iff.1 h
  obtain ⟨⟨_, cs₁₀⟩, h₁₀, h⟩ := bind_eq_ok_iff.1 h
  obtain ⟨⟨second, cs₁₁⟩, h₁₁, h⟩ := bind_eq_ok_iff.1 h
  obtain ⟨⟨nano, cs₁₂⟩, h₁₂, h⟩ := bind_eq_ok_iff.1 h
  obtain ⟨⟨off, cs₁₃⟩, h₁₃, h⟩ := bind_eq_ok_iff.1 h
  dsimp only at h
  split_ifs at h with hblanks
  cases h
  obtain ⟨_, rfl, hyear, hyears⟩ := takesJust_year.sound h₁
  obtain ⟨_, rfl, hdash₁⟩ := takesJust_dash.sound h₂
  obtain ⟨_, rfl, hmonth, hmonths⟩ := (takesJust_ranged 1 12).sound h₃
  obtain ⟨_, rfl, hdash₂⟩ := takesJust_dash.sound h₄
  obtain ⟨_, rfl, hday, hdays⟩ := (takesJust_ranged 1 31).sound h₅
  obtain ⟨_, hmiddle, rfl⟩ := dateTimeSeparator_eq_ok_iff.1 h₆
  obtain ⟨_, rfl, hhour, hhours⟩ := (takesJust_ranged 0 23).sound h₇
  obtain ⟨_, rfl, hcolon₁⟩ := takesJust_colon.sound h₈
  obtain ⟨_, rfl, hminute, hminutes⟩ := (takesJust_ranged 0 59).sound h₉
  obtain ⟨_, rfl, hcolon₂⟩ := takesJust_colon.sound h₁₀
  obtain ⟨_, rfl, hsecond, hseconds⟩ := (takesJust_ranged 0 60).sound h₁₁
  obtain ⟨_, rfl, hfraction⟩ := takesJust_fraction.sound h₁₂
  obtain ⟨_, rfl, hoff⟩ := takesJust_zone.sound h₁₃
  exact ⟨.mk hyear hdash₁ hmonth hdash₂ hday hmiddle hhour hcolon₁ hminute hcolon₂ hsecond
    hfraction hoff hblanks, hyears, hmonths, hdays, hhours.2, hminutes.2, hseconds.2⟩

/-- Each step takes its part, as the next part does not start with what would belong to it. -/
theorem readLocal_of_isWritten {cs : List Char} {l : Local} (h : IsWritten cs l)
    (hrange : l.InRange) : readLocal cs = .ok l := by
  obtain ⟨hyear, hdash₁, hmonth, hdash₂, hday, hmiddle, hhour, hcolon₁, hminute, hcolon₂, hsecond,
    hfraction, hoff, hblanks⟩ := h
  have hany : ∀ cs, StartsBeside (fun _ => false) cs := fun cs => by cases cs <;> rfl
  have hletter : ∀ cs, StartsBeside Char.isDigit (_ :: cs) := fun cs =>
    startsBeside_cons_iff.2 (isDigit_of_middle hmiddle)
  refine bind_eq_ok_iff.2 ⟨_, takesJust_year.complete ⟨hyear, hrange.year⟩
    (startsBeside_mark (by decide) hdash₁), ?_⟩
  refine bind_eq_ok_iff.2 ⟨_, takesJust_dash.complete hdash₁ (hany _), ?_⟩
  refine bind_eq_ok_iff.2 ⟨_, (takesJust_ranged 1 12).complete ⟨hmonth, hrange.month⟩
    (startsBeside_mark (by decide) hdash₂), ?_⟩
  refine bind_eq_ok_iff.2 ⟨_, takesJust_dash.complete hdash₂ (hany _), ?_⟩
  refine bind_eq_ok_iff.2 ⟨_, (takesJust_ranged 1 31).complete ⟨hday, hrange.day⟩ (hletter _), ?_⟩
  refine bind_eq_ok_iff.2 ⟨_, dateTimeSeparator_eq_ok_iff.2 ⟨_, hmiddle, rfl⟩, ?_⟩
  refine bind_eq_ok_iff.2 ⟨_, (takesJust_ranged 0 23).complete
    ⟨hhour, Nat.zero_le _, hrange.hour⟩ (startsBeside_mark (by decide) hcolon₁), ?_⟩
  refine bind_eq_ok_iff.2 ⟨_, takesJust_colon.complete hcolon₁ (hany _), ?_⟩
  refine bind_eq_ok_iff.2 ⟨_, (takesJust_ranged 0 59).complete
    ⟨hminute, Nat.zero_le _, hrange.minute⟩ (startsBeside_mark (by decide) hcolon₂), ?_⟩
  refine bind_eq_ok_iff.2 ⟨_, takesJust_colon.complete hcolon₂ (hany _), ?_⟩
  -- Where there is no fraction it is the offset that ends the seconds.
  refine bind_eq_ok_iff.2 ⟨_, (takesJust_ranged 0 60).complete
    ⟨hsecond, Nat.zero_le _, hrange.second⟩
    (startsBeside_fraction hfraction (startsBeside_zone hoff)), ?_⟩
  refine bind_eq_ok_iff.2 ⟨_, takesJust_fraction.complete hfraction (startsBeside_zone hoff), ?_⟩
  exact bind_eq_ok_iff.2 ⟨_, takesJust_zone.complete hoff (hany _), if_pos hblanks⟩

/-- The reader takes the texts that are put together from parts in range, and reads these parts. -/
theorem readLocal_eq_ok_iff {cs : List Char} {l : Local} :
    readLocal cs = .ok l ↔ IsWritten cs l ∧ l.InRange :=
  ⟨isWritten_of_readLocal, fun h => readLocal_of_isWritten h.1 h.2⟩

end WebhookClient.Instant
