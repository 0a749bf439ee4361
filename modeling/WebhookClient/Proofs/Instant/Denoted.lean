import Mathlib
import WebhookClient.Proofs.Instant.Grammar
import WebhookClient.Request.Basic

/-!
# Points in time that texts denote

A text `Denotes` a point in time if a clock with the offset of the text shows at that point the date
and the time that the text says. The reader finds just the point that is denoted; what is written
for a point is a text of it in UTC, without a digit too many, and the same in bodies and in queries.
Main statements: `ofText_eq_ok_iff` and `ofText_canonical`.
-/

set_option autoImplicit false

namespace WebhookClient.Instant

open Decimal Text

/-! ## Clocks -/

/-- The seconds from the start of 1970 in UTC to a point in time, leap seconds apart. -/
def seconds (t : Instant) : Int := t.days * secondsPerDay + t.second

theorem eq_of_seconds_eq {t u : Instant} (h : t.seconds = u.seconds) (hnano : t.nano = u.nano) :
    t = u := by
  have ht : t.second < 86400 := t.valid.2.1
  have hu : u.second < 86400 := u.valid.2.1
  have hsum : t.days * 86400 + t.second = u.days * 86400 + u.second := h
  obtain ⟨d, s, n, _⟩ := t
  obtain ⟨e, r, m, _⟩ := u
  dsimp only at ht hu hsum hnano
  obtain rfl : d = e := by omega
  obtain rfl : s = r := by omega
  subst hnano
  rfl

/-- The second of the day of a local time; a leap second belongs to the second before it. -/
def Local.secondOfDay (l : Local) : Nat := l.hour * 3600 + l.minute * 60 + min l.second 59

/-- The nanosecond of that second: those of a leap second follow its own. -/
def Local.heldNano (l : Local) : Nat :=
  if l.second = 60 then l.nano + nanosPerSecond else l.nano

/-- What a clock that is ahead of UTC by an offset shows at a point in time: the date, the time of
day and the fraction. A leap second is shown as second 60. -/
structure Shows (t : Instant) (l : Local) : Prop where
  date : Date.ofDays ((t.seconds + l.offset) / secondsPerDay) = l.date
  second : (t.seconds + l.offset) % secondsPerDay = l.secondOfDay
  nano : t.nano = l.heldNano

/-- A date and a time of day on a clock, with an offset of less than a day. -/
structure Local.IsCivil (l : Local) : Prop where
  date : l.date.IsValid
  hour : l.hour ≤ 23
  minute : l.minute ≤ 59
  second : l.second ≤ 60
  nano : l.nano < nanosPerSecond
  offset : -(secondsPerDay : Int) < l.offset ∧ l.offset < secondsPerDay

theorem Local.IsCivil.secondOfDay_lt {l : Local} (h : l.IsCivil) : l.secondOfDay < 86400 := by
  have hhour := h.hour
  have hminute := h.minute
  unfold Local.secondOfDay
  omega

/-- The day and the second of the day in UTC, which may carry into the day before or after. -/
theorem ofLocal_eq {l : Local} (h : l.IsCivil) : ofLocal l =
    if h : IsPoint (l.date.toDays + ((l.secondOfDay : Int) - l.offset) / 86400)
        (((l.secondOfDay : Int) - l.offset) % 86400).toNat l.heldNano then .ok ⟨_, _, _, h⟩
    else .error .impossible := by
  have hsecond := h.second
  have hshown : (if l.second = 60 then 59 else l.second) = min l.second 59 := by
    split_ifs <;> omega
  have hsum : (l.hour : Int) * 3600 + l.minute * 60 +
      ((if l.second = 60 then 59 else l.second : Nat) : Int) - l.offset =
        l.secondOfDay - l.offset := by
    rw [hshown]
    rfl
  have hdiv : ((l.secondOfDay : Int) - l.offset).fdiv secondsPerDay =
      ((l.secondOfDay : Int) - l.offset) / 86400 := Int.fdiv_eq_ediv_of_nonneg _ (by decide)
  have hmod : ((l.secondOfDay : Int) - l.offset).fmod secondsPerDay =
      ((l.secondOfDay : Int) - l.offset) % 86400 := Int.fmod_eq_emod_of_nonneg _ (by decide)
  unfold ofLocal
  rw [if_neg (not_not.2 h.date), if_neg (not_not.2 h.offset)]
  simp only [hsum, hdiv, hmod]
  rfl

/-- What is found for a local date and time is the point in time at which a clock shows them. -/
theorem ofLocal_eq_ok_iff {l : Local} {t : Instant} (h : l.IsCivil) :
    ofLocal l = .ok t ↔ t.Shows l := by
  have hlocal := h.secondOfDay_lt
  have hdate : Date.ofDays l.date.toDays = l.date :=
    Date.ofDays_toDays (Date.isValid_iff.1 h.date).2.2
  -- What the clock shows fixes the day, the second and the nanosecond.
  have hshows : t.Shows l ↔ t.days = l.date.toDays + ((l.secondOfDay : Int) - l.offset) / 86400 ∧
      t.second = (((l.secondOfDay : Int) - l.offset) % 86400).toNat ∧
      t.nano = l.heldNano := by
    have hsecond : t.second < 86400 := t.valid.2.1
    have hseconds : t.seconds = t.days * 86400 + t.second := rfl
    have hday : (secondsPerDay : Int) = 86400 := rfl
    constructor
    · rintro ⟨hshown, htime, hnano⟩
      have hnumber := Date.toDays_ofDays ((t.seconds + l.offset) / secondsPerDay)
      rw [hshown] at hnumber
      rw [hday] at hnumber htime
      exact ⟨by omega, by omega, hnano⟩
    · rintro ⟨hdays, htime, hnano⟩
      have hnumber : (t.seconds + l.offset) / 86400 = l.date.toDays := by omega
      refine ⟨?_, ?_, hnano⟩
      · rw [hday, hnumber, hdate]
      · rw [hday]
        omega
  rw [ofLocal_eq h, hshows]
  obtain ⟨days, second, nano, hvalid⟩ := t
  constructor
  · intro hpoint
    split at hpoint
    · cases hpoint
      exact ⟨rfl, rfl, rfl⟩
    · cases hpoint
  · rintro ⟨rfl, rfl, rfl⟩
    exact dif_pos hvalid

/-! ## Texts -/

theorem IsFraction.lt {cs : List Char} {n : Nat} (h : IsFraction cs n) : n < nanosPerSecond := by
  cases h with
  | none => decide
  | @point ds m hds =>
    have hlt := value_lt hds.isDigit
    rw [hds.value_eq] at hlt
    refine Nat.div_lt_of_lt_mul ?_
    exact Nat.mul_lt_mul_of_pos_right hlt (by decide)

theorem IsWritten.nano_lt {cs : List Char} {l : Local} (h : IsWritten cs l) :
    l.nano < nanosPerSecond := by
  cases h with
  | mk _ _ _ _ _ _ _ _ _ _ _ hfraction => exact hfraction.lt

/-- A text says a date and a time of day on a clock with an offset, and the clock shows these at the
point in time. -/
def Denotes (s : String) (t : Instant) : Prop :=
  ∃ l : Local, IsWritten s.toList l ∧ l.IsCivil ∧ t.Shows l

theorem Local.IsCivil.inRange {l : Local} (h : l.IsCivil) : l.InRange := by
  obtain ⟨hmin, hmax, hmonth, htwelve, hday, hmonthEnd⟩ := h.date
  have hmin' : -262143 ≤ l.date.year := hmin
  have hmax' : l.date.year ≤ 262142 := hmax
  refine ⟨by omega, ⟨hmonth, htwelve⟩, ⟨hday, hmonthEnd.trans ?_⟩, h.hour, h.minute, h.second⟩
  exact Date.daysInMonth_le _ _

/-- What is read and has a point in time is a date and a time of day that a clock shows then. -/
theorem shows_of_readLocal {cs : List Char} {l : Local} {t : Instant} (hread : readLocal cs = .ok l)
    (hpoint : ofLocal l = .ok t) : IsWritten cs l ∧ l.IsCivil ∧ t.Shows l := by
  obtain ⟨hwritten, hrange⟩ := readLocal_eq_ok_iff.1 hread
  have hdate : l.date.IsValid := by
    by_contra hdate
    rw [ofLocal, if_pos hdate] at hpoint
    cases hpoint
  have hoffset : -(secondsPerDay : Int) < l.offset ∧ l.offset < secondsPerDay := by
    by_contra hoffset
    rw [ofLocal, if_neg (not_not.2 hdate), if_pos hoffset] at hpoint
    cases hpoint
  have hcivil : l.IsCivil :=
    ⟨hdate, hrange.hour, hrange.minute, hrange.second, hwritten.nano_lt, hoffset⟩
  exact ⟨hwritten, hcivil, (ofLocal_eq_ok_iff hcivil).1 hpoint⟩

/-- A text is read as the point in time that it denotes. -/
theorem ofText_eq_ok_iff {s : String} {t : Instant} : ofText s = .ok t ↔ Denotes s t := by
  unfold ofText
  rw [bind_eq_ok_iff]
  constructor
  · rintro ⟨l, hread, hpoint⟩
    exact ⟨l, shows_of_readLocal hread hpoint⟩
  · rintro ⟨l, hwritten, hcivil, hshows⟩
    exact ⟨l, readLocal_eq_ok_iff.2 ⟨hwritten, hcivil.inRange⟩, (ofLocal_eq_ok_iff hcivil).2 hshows⟩

/-! ## What is written -/

/-- The digits say the nanoseconds of a fraction in 0, 3, 6 or 9 places. -/
structure SaysNano (ds : List Char) (n : Nat) : Prop where
  isDigit : ∀ c ∈ ds, c.isDigit = true
  places : ds.length ∈ [0, 3, 6, 9]
  value_eq : value ds * 10 ^ (9 - ds.length) = n

/-- No digits in fewer places say the same. -/
def IsShortest (ds : List Char) (n : Nat) : Prop :=
  SaysNano ds n ∧ ∀ es, SaysNano es n → ds.length ≤ es.length

/-- The nanoseconds are a multiple of what a unit of the last place is worth. -/
theorem SaysNano.dvd {ds : List Char} {n : Nat} (h : SaysNano ds n) : 10 ^ (9 - ds.length) ∣ n :=
  Dvd.intro_left _ h.value_eq

theorem saysNano_padded {w n : Nat} (hw : w ∈ [3, 6, 9]) (hn : n < nanosPerSecond)
    (hdvd : 10 ^ (9 - w) ∣ n) : SaysNano (padded w (n / 10 ^ (9 - w))) n := by
  have hw9 : 0 < w ∧ w ≤ 9 := by
    simp only [List.mem_cons, List.not_mem_nil, or_false] at hw
    omega
  have hlength : (padded w (n / 10 ^ (9 - w))).length = w := by
    refine length_padded_of_lt hw9.1 (Nat.div_lt_of_lt_mul ?_)
    rw [← pow_add, Nat.sub_add_cancel hw9.2]
    exact hn
  refine ⟨fun c hc => isDigit_of_mem_padded hc, ?_, ?_⟩
  · rw [hlength]
    exact List.mem_cons_of_mem 0 hw
  · rw [hlength, value_padded, Nat.div_mul_cancel hdvd]

/-- Where fewer places would not do, the number of places is the least. -/
theorem isShortest_padded {w n : Nat} (hw : w ∈ [3, 6, 9]) (hn : n < nanosPerSecond)
    (hdvd : 10 ^ (9 - w) ∣ n) (hless : ∀ k ∈ [0, 3, 6, 9], 10 ^ (9 - k) ∣ n → w ≤ k) :
    IsShortest (padded w (n / 10 ^ (9 - w))) n := by
  have hsaid := saysNano_padded hw hn hdvd
  refine ⟨hsaid, fun es hes => le_trans ?_ (hless es.length hes.places hes.dvd)⟩
  rw [length_padded]
  refine max_le le_rfl (length_digits_le ?_ (Nat.div_lt_of_lt_mul ?_))
  · exact (by decide : ∀ w ∈ [3, 6, 9], 0 < w) w hw
  · rw [← pow_add, Nat.sub_add_cancel ((by decide : ∀ w ∈ [3, 6, 9], w ≤ 9) w hw)]
    exact hn

/-- Digits after a point, if there are any. -/
def pointed (ds : List Char) : List Char := if ds = [] then [] else '.' :: ds

theorem pointed_padded (w n : Nat) : pointed (padded w n) = '.' :: padded w n :=
  if_neg (padded_ne_nil w n)

/-- The fraction that is written is the shortest. -/
theorem exists_isShortest_fractionText {n : Nat} (hn : n < nanosPerSecond) :
    ∃ ds, fractionText n = pointed ds ∧ IsShortest ds n := by
  have hn' : n < 1000000000 := hn
  unfold fractionText
  split_ifs with h0 h3 h6
  · subst h0
    exact ⟨[], rfl, ⟨List.forall_mem_nil _, List.mem_cons_self, Nat.zero_mul _⟩,
      fun _ _ => Nat.zero_le _⟩
  · refine ⟨padded 3 (n / 10 ^ (9 - 3)), ?_, isShortest_padded (by decide) hn ?_
      fun k hk hdvd => ?_⟩
    · norm_num [pointed_padded]
    · norm_num
      omega
    · simp only [List.mem_cons, List.not_mem_nil, or_false] at hk
      obtain rfl | rfl | rfl | rfl := hk <;> norm_num at hdvd ⊢
      omega
  · refine ⟨padded 6 (n / 10 ^ (9 - 6)), ?_, isShortest_padded (by decide) hn ?_
      fun k hk hdvd => ?_⟩
    · norm_num [pointed_padded]
    · norm_num
      omega
    · simp only [List.mem_cons, List.not_mem_nil, or_false] at hk
      obtain rfl | rfl | rfl | rfl := hk <;> norm_num at hdvd ⊢ <;> omega
  · refine ⟨padded 9 (n / 10 ^ (9 - 9)), ?_, isShortest_padded (by decide) hn (one_dvd n)
      fun k hk hdvd => ?_⟩
    · rw [Nat.sub_self, pow_zero, Nat.div_one, pointed_padded]
    · simp only [List.mem_cons, List.not_mem_nil, or_false] at hk
      obtain rfl | rfl | rfl | rfl := hk <;> norm_num at hdvd ⊢ <;> omega

/-- The text of an instant up to the fraction of the second. -/
def wholeText (t : Instant) : List Char :=
  yearText (Date.ofDays t.days).year ++ '-' :: (padded 2 (Date.ofDays t.days).month ++
    '-' :: (padded 2 (Date.ofDays t.days).day ++ 'T' :: (padded 2 (t.second / 3600) ++
      ':' :: (padded 2 (t.second / 60 % 60) ++ ':' :: padded 2 t.shownSecond.1))))

theorem render_eq_wholeText (t : Instant) :
    t.render = t.wholeText ++ fractionText t.shownSecond.2 ++ ['Z'] := by
  simp [render_eq, wholeText, List.append_assoc]

/-- Nothing but digits, signs and marks is written before the fraction. -/
theorem forall_mem_wholeText (t : Instant) :
    ∀ c ∈ t.wholeText, c.isDigit = true ∨ c ∈ ['+', '-', 'T', ':'] := by
  have hpadded : ∀ w n, ∀ c ∈ padded w n, c.isDigit = true ∨ c ∈ ['+', '-', 'T', ':'] :=
    fun w n c hc => .inl (isDigit_of_mem_padded hc)
  have hyear : ∀ y, ∀ c ∈ yearText y, c.isDigit = true ∨ c ∈ ['+', '-', 'T', ':'] := by
    intro y
    unfold yearText
    split_ifs
    · exact hpadded _ _
    · exact List.forall_mem_cons.2 ⟨.inr (by decide), hpadded _ _⟩
    · exact List.forall_mem_cons.2 ⟨.inr (by decide), hpadded _ _⟩
  simp only [wholeText, List.forall_mem_append, List.forall_mem_cons]
  exact ⟨hyear _, .inr (by decide), hpadded _ _, .inr (by decide), hpadded _ _, .inr (by decide),
    hpadded _ _, .inr (by decide), hpadded _ _, .inr (by decide), hpadded _ _⟩

/-- The characters that an instant is written in stand for themselves in a JSON string. -/
theorem escapeChar_of_plain {c : Char}
    (h : c.isDigit = true ∨ c ∈ ['+', '-', 'T', ':', '.', 'Z']) : Json.escapeChar c = [c] := by
  have hprintable : ¬ c.toNat < 0x20 := by
    obtain h | h := h
    · simp only [Char.isDigit, Bool.and_eq_true, decide_eq_true_eq] at h
      have hlow : 48 ≤ c.toNat := h.1
      omega
    · simp only [List.mem_cons, List.not_mem_nil, or_false] at h
      obtain rfl | rfl | rfl | rfl | rfl | rfl := h <;> decide
  unfold Json.escapeChar
  split
  case h_8 => exact if_neg hprintable
  all_goals exact absurd h (by decide)

theorem forall_mem_render (t : Instant) :
    ∀ c ∈ t.render, c.isDigit = true ∨ c ∈ ['+', '-', 'T', ':', '.', 'Z'] := by
  obtain ⟨-, hnano, -, -⟩ := shownSecond_spec t
  obtain ⟨ds, hds, hshortest⟩ := exists_isShortest_fractionText hnano
  have hpointed : ∀ c ∈ pointed ds, c.isDigit = true ∨ c ∈ ['+', '-', 'T', ':', '.', 'Z'] := by
    unfold pointed
    split_ifs
    · exact List.forall_mem_nil _
    · exact List.forall_mem_cons.2 ⟨.inr (by decide), fun c hc => .inl (hshortest.1.isDigit c hc)⟩
  have hwhole : ∀ c ∈ t.wholeText, c.isDigit = true ∨ c ∈ ['+', '-', 'T', ':', '.', 'Z'] :=
    fun c hc => (t.forall_mem_wholeText c hc).imp_right fun h => List.mem_append_left ['.', 'Z'] h
  rw [render_eq_wholeText, hds, List.forall_mem_append, List.forall_mem_append]
  exact ⟨⟨hwhole, hpointed⟩, List.forall_mem_singleton.2 (.inr (by decide))⟩

/-- A text in a body is the one in a query between quotes. -/
theorem encode_eq_quoted (t : Instant) :
    Json.encode t = "\"" ++ (QueryValue.time t).toText ++ "\"" := by
  have hplain : t.toText.toList.flatMap Json.escapeChar = t.toText.toList := by
    rw [toText, String.toList_ofList]
    conv_rhs => rw [← List.flatMap_singleton' t.render]
    exact List.flatMap_congr fun c hc => escapeChar_of_plain (t.forall_mem_render c hc)
  refine String.toList_injective ?_
  show (String.ofList (Json.renderString t.toText)).toList = _
  rw [String.toList_ofList, Json.renderString, hplain]
  simp [QueryValue.toText]

/-- The text that is written for a point in time: a text of it in UTC that is read again, with as
few digits of a fraction as can be, and the same in bodies and in queries. -/
structure HasCanonicalText (t : Instant) : Prop where
  reads : ofText t.toText = .ok t
  utc : ∃ l : Local, IsWritten t.toText.toList l ∧ l.IsCivil ∧ t.Shows l ∧ l.offset = 0
  shortest : ∃ whole ds, t.toText.toList = whole ++ pointed ds ++ ['Z'] ∧ '.' ∉ whole ∧
    IsShortest ds (t.nano % nanosPerSecond)
  quoted : Json.encode t = "\"" ++ (QueryValue.time t).toText ++ "\""

theorem shownSecond_snd (t : Instant) : t.shownSecond.2 = t.nano % nanosPerSecond := by
  have hnano : t.nano < 2 * 1000000000 := t.valid.2.2.1
  have hnanos : nanosPerSecond = 1000000000 := rfl
  unfold shownSecond
  rw [hnanos]
  split_ifs <;> dsimp only <;> omega

theorem hasCanonicalText (t : Instant) : t.HasCanonicalText where
  reads := ofText_toText t
  utc := by
    rw [toText, String.toList_ofList]
    obtain ⟨hwritten, hcivil, hshows⟩ := shows_of_readLocal t.readLocal_render (ofLocal_shown t)
    exact ⟨_, hwritten, hcivil, hshows, rfl⟩
  shortest := by
    obtain ⟨ds, hds, hshortest⟩ := exists_isShortest_fractionText (shownSecond_spec t).2.1
    rw [shownSecond_snd] at hshortest
    refine ⟨t.wholeText, ds, ?_, fun hpoint => ?_, hshortest⟩
    · rw [toText, String.toList_ofList, render_eq_wholeText, hds]
    · exact absurd (t.forall_mem_wholeText '.' hpoint) (by decide)
  quoted := t.encode_eq_quoted

/-- Days follow each other as in the calendar; texts are read as the points in time that they
denote; the text that is written for a point is the canonical one, and texts are rewritten to the
same text just if they denote the same point. -/
theorem ofText_canonical :
    (Date.ofDays 0 = ⟨1970, 1, 1⟩ ∧ ∀ days, Date.ofDays (days + 1) = (Date.ofDays days).next) ∧
      (∀ (s : String) (t : Instant), ofText s = .ok t ↔ Denotes s t) ∧
      (∀ t : Instant, t.HasCanonicalText) ∧
      ∀ (s₁ s₂ : String) (t₁ t₂ : Instant), Denotes s₁ t₁ → Denotes s₂ t₂ →
        (t₁.seconds = t₂.seconds ∧ t₁.nano = t₂.nano ↔
          (ofText s₁).map toText = (ofText s₂).map toText) := by
  refine ⟨⟨Date.ofDays_zero, Date.ofDays_succ⟩, fun s t => ofText_eq_ok_iff, hasCanonicalText,
    fun s₁ s₂ t₁ t₂ h₁ h₂ => ?_⟩
  rw [ofText_eq_ok_iff.2 h₁, ofText_eq_ok_iff.2 h₂]
  constructor
  · rintro ⟨hseconds, hnano⟩
    rw [eq_of_seconds_eq hseconds hnano]
  · intro h
    have htext : t₁.toText = t₂.toText := Except.ok.inj h
    rw [toText_injective htext]
    exact ⟨rfl, rfl⟩

/-- A leap second at the end of a year, as a clock in another country shows it. -/
example : (ofText "+2017-1-01 05:29:60.90000000099 +0530").map toText =
    .ok "2016-12-31T23:59:60.900Z" := by
  decide +kernel

end WebhookClient.Instant
