import Mathlib
import WebhookClient.Proofs.Binary64.Shortest
import WebhookClient.Proofs.Json.Numeral

/-!
# The text of a number tells the number

Each number is written as a numeral. The numeral of an integer has neither fraction nor exponent;
that of a double has one of them, and denotes a rational number that rounds to the double. Main
statement: `Number.render_append_injective`.
-/

set_option autoImplicit false

namespace WebhookClient.Json

open Binary64

namespace Numeral

/-! ## Numerals of integers -/

/-- The numeral of an integer. -/
def ofInt : Int → Numeral
  | .ofNat n => ⟨false, Decimal.digits n, none, none⟩
  | .negSucc n => ⟨true, Decimal.digits (n + 1), none, none⟩

theorem toChars_ofInt (i : Int) : (ofInt i).toChars = Decimal.ofInt i := by
  cases i with
  | ofNat n => exact List.append_nil _
  | negSucc n => exact congrArg ('-' :: ·) (List.append_nil _)

/-- The digits of zero are a single zero. -/
theorem digits_leading (n : Nat) :
    Decimal.digits n = ['0'] ∨ (Decimal.digits n).head? ≠ some '0' := by
  rcases Nat.eq_zero_or_pos n with rfl | h
  · exact .inl (Nat.toDigits_zero 10)
  · exact .inr (Decimal.head?_digits_ne_zero h)

theorem isWellFormed_ofInt (i : Int) : (ofInt i).IsWellFormed := by
  cases i with
  | ofNat n => exact ⟨isRun_digits n, digits_leading n, by simp [ofInt], by simp [ofInt]⟩
  | negSucc n =>
    exact ⟨isRun_digits (n + 1), digits_leading (n + 1), by simp [ofInt], by simp [ofInt]⟩

theorem plain_ofInt (i : Int) : (ofInt i).fraction = none ∧ (ofInt i).exponent = none := by
  cases i <;> exact ⟨rfl, rfl⟩

/-! ## Numerals of digits with a weight -/

/-- The numeral of the digits `ds`, the first of which has the decimal weight `10 ^ k`. -/
def ofDigits (negative : Bool) (ds : List Char) (k : Int) : Numeral :=
  if jsonForm.leastPlain ≤ k ∧ k ≤ jsonForm.greatestPlain then
    if k < 0 then ⟨negative, ['0'], some (List.replicate (-k - 1).toNat '0' ++ ds), none⟩
    else if ds.length ≤ k.toNat + 1 then
      ⟨negative, ds ++ List.replicate (k.toNat + 1 - ds.length) '0', some ['0'], none⟩
    else ⟨negative, ds.take (k.toNat + 1), some (ds.drop (k.toNat + 1)), none⟩
  else
    ⟨negative, ds.take 1, if ds.length = 1 then none else some (ds.drop 1),
      some (decide (k < 0), Decimal.digits k.natAbs)⟩

theorem negative_ofDigits (negative : Bool) (ds : List Char) (k : Int) :
    (ofDigits negative ds k).negative = negative := by
  unfold ofDigits
  split_ifs <;> rfl

/-- The numeral of digits is not that of an integer. -/
theorem not_plain_ofDigits (negative : Bool) (ds : List Char) (k : Int) :
    ¬ ((ofDigits negative ds k).fraction = none ∧ (ofDigits negative ds k).exponent = none) := by
  rintro ⟨hf, he⟩
  unfold ofDigits at hf he
  split_ifs at hf he

theorem toChars_ofDigits (negative : Bool) {ds : List Char} (hds : ds ≠ []) (k : Int) :
    (ofDigits negative ds k).toChars =
      (if negative then ['-'] else []) ++ jsonForm.layout ds k := by
  unfold ofDigits TextForm.layout
  by_cases hplain : jsonForm.leastPlain ≤ k ∧ k ≤ jsonForm.greatestPlain
  · rw [if_pos hplain, if_pos hplain]
    by_cases hk : k < 0
    · rw [if_pos hk, if_pos hk]
      simp [toChars, fractionText, exponentText]
    · rw [if_neg hk, if_neg hk]
      by_cases hlen : ds.length ≤ k.toNat + 1
      · rw [if_pos hlen]
        simp [toChars, fractionText, exponentText, hlen]
      · rw [if_neg hlen]
        simp [toChars, fractionText, exponentText, hlen]
  · rw [if_neg hplain, if_neg hplain]
    -- The mantissa has a point if there is more than one digit, the exponent its own sign.
    match ds, hds with
    | [d], _ =>
      by_cases hk : k < 0 <;>
        simp [toChars, fractionText, exponentText, hk, jsonForm]
    | d :: d' :: ds, _ =>
      by_cases hk : k < 0 <;>
        simp [toChars, fractionText, exponentText, hk, jsonForm]

/-! ## Runs of digits -/

theorem isRun_zeros_append {ds : List Char} (hds : IsRun ds) (k : Nat) :
    IsRun (List.replicate k '0' ++ ds) := by
  refine ⟨List.append_ne_nil_of_right_ne_nil _ hds.1, fun c hc => ?_⟩
  rcases List.mem_append.1 hc with hc | hc
  · rw [List.eq_of_mem_replicate hc]
    rfl
  · exact hds.2 c hc

theorem isRun_append_zeros {ds : List Char} (hds : IsRun ds) (k : Nat) :
    IsRun (ds ++ List.replicate k '0') := by
  refine ⟨List.append_ne_nil_of_left_ne_nil hds.1 _, fun c hc => ?_⟩
  rcases List.mem_append.1 hc with hc | hc
  · exact hds.2 c hc
  · rw [List.eq_of_mem_replicate hc]
    rfl

theorem isRun_take {ds : List Char} (hds : IsRun ds) {k : Nat} (hk : 0 < k) :
    IsRun (ds.take k) := by
  refine ⟨?_, fun c hc => hds.2 c (List.mem_of_mem_take hc)⟩
  rw [Ne, List.take_eq_nil_iff, not_or]
  exact ⟨hk.ne', hds.1⟩

theorem isRun_drop {ds : List Char} (hds : IsRun ds) {k : Nat} (hk : k < ds.length) :
    IsRun (ds.drop k) := by
  refine ⟨?_, fun c hc => hds.2 c (List.mem_of_mem_drop hc)⟩
  rw [Ne, List.drop_eq_nil_iff, not_le]
  exact hk

theorem head?_take_ne {ds : List Char} (hlead : ds.head? ≠ some '0') (k : Nat) :
    (ds.take k).head? ≠ some '0' := by
  rw [List.head?_take]
  split_ifs
  · simp
  · exact hlead

theorem isWellFormed_ofDigits (negative : Bool) {ds : List Char} (hds : IsRun ds)
    (hlead : ds.head? ≠ some '0') (k : Int) : (ofDigits negative ds k).IsWellFormed := by
  have hzero : IsRun ['0'] := isRun_digits 0
  have hpos := List.length_pos_iff.2 hds.1
  unfold ofDigits
  split_ifs with hplain hk hlen hone
  · -- All digits stand after the point.
    refine ⟨hzero, .inl rfl, ?_, by simp⟩
    rintro _ ⟨⟩
    exact isRun_zeros_append hds _
  · -- All digits stand before the point.
    refine ⟨isRun_append_zeros hds _, .inr ?_, ?_, by simp⟩
    · rw [List.head?_append_of_ne_nil _ hds.1]
      exact hlead
    · rintro _ ⟨⟩
      exact hzero
  · -- The point stands between the digits.
    refine ⟨isRun_take hds (Nat.succ_pos _), .inr (head?_take_ne hlead _), ?_, by simp⟩
    rintro _ ⟨⟩
    exact isRun_drop hds (Nat.lt_of_not_le hlen)
  · -- A single digit with an exponent.
    refine ⟨isRun_take hds Nat.one_pos, .inr (head?_take_ne hlead _), by simp, ?_⟩
    rintro _ ⟨⟩
    exact isRun_digits _
  · -- Several digits with an exponent.
    refine ⟨isRun_take hds Nat.one_pos, .inr (head?_take_ne hlead _), ?_, ?_⟩
    · rintro _ ⟨⟩
      exact isRun_drop hds (by omega)
    · rintro _ ⟨⟩
      exact isRun_digits _

/-! ## The number that a numeral denotes -/

/-- The rational number denoted, without the sign. -/
def magnitude (n : Numeral) : ℚ :=
  Decimal.value (n.whole ++ n.fraction.getD []) *
    10 ^ (exponentValue n.exponent - (n.fraction.getD []).length)

/-- The exponent that is written for a weight is that weight. -/
theorem exponentValue_digits (k : Int) :
    exponentValue (some (decide (k < 0), Decimal.digits k.natAbs)) = k := by
  by_cases hk : k < 0
  · rw [decide_eq_true hk]
    show -(Decimal.value (Decimal.digits k.natAbs) : Int) = k
    rw [Decimal.value_digits]
    omega
  · rw [decide_eq_false hk]
    show (Decimal.value (Decimal.digits k.natAbs) : Int) = k
    rw [Decimal.value_digits]
    omega

/-- Digits keep their value in every layout. -/
theorem magnitude_ofDigits (negative : Bool) {ds : List Char} (hds : ds ≠ []) (k : Int) :
    (ofDigits negative ds k).magnitude = Decimal.value ds * 10 ^ (k + 1 - ds.length) := by
  have hpos := List.length_pos_iff.2 hds
  unfold ofDigits
  -- In each layout the zeros that are added are made up for by the places after the point.
  split_ifs with hplain hk hlen hone
  · show (Decimal.value (List.replicate 1 '0' ++ (List.replicate _ '0' ++ ds)) : ℚ) *
      10 ^ (0 - ((List.replicate _ '0' ++ ds).length : Int)) = _
    rw [Decimal.value_zeros_append, Decimal.value_zeros_append, List.length_append,
      List.length_replicate]
    congr 2
    omega
  · show (Decimal.value ((ds ++ List.replicate _ '0') ++ List.replicate 1 '0') : ℚ) *
      10 ^ (0 - (([('0' : Char)]).length : Int)) = _
    rw [Decimal.value_append_zeros, Decimal.value_append_zeros, Nat.cast_mul, Nat.cast_mul,
      Nat.cast_pow, Nat.cast_pow, mul_assoc, mul_assoc, ← zpow_natCast, ← zpow_natCast,
      Nat.cast_ofNat, ← zpow_add₀ (by norm_num), ← zpow_add₀ (by norm_num)]
    congr 2
    simp only [List.length_singleton]
    omega
  · show (Decimal.value (ds.take _ ++ ds.drop _) : ℚ) *
      10 ^ (0 - ((ds.drop _).length : Int)) = _
    rw [List.take_append_drop, List.length_drop]
    congr 2
    omega
  · show (Decimal.value (ds.take 1 ++ []) : ℚ) *
      10 ^ (exponentValue (some (decide (k < 0), Decimal.digits k.natAbs)) - 0) = _
    rw [List.append_nil, List.take_of_length_le hone.le, hone, exponentValue_digits]
    congr 2
    omega
  · show (Decimal.value (ds.take 1 ++ ds.drop 1) : ℚ) *
      10 ^ (exponentValue (some (decide (k < 0), Decimal.digits k.natAbs)) -
        ((ds.drop 1).length : Int)) = _
    rw [List.take_append_drop, List.length_drop, exponentValue_digits]
    congr 2
    omega

/-! ## Numerals of doubles -/

/-- The numeral of a double. -/
def ofBinary (x : Binary64) : Numeral :=
  if x.significand = 0 then ⟨x.negative, ['0'], some ['0'], none⟩
  else
    let ds := Decimal.digits (shortest x.significand x.exponent).1
    ofDigits x.negative ds ((shortest x.significand x.exponent).2 + ds.length - 1)

theorem toChars_ofBinary (x : Binary64) : (ofBinary x).toChars = x.toText := by
  unfold ofBinary Binary64.toText
  by_cases h : x.significand = 0
  · rw [if_pos h]
    show (if x.negative then ['-'] else []) ++ ['0', '.', '0'] = if x.significand = 0 then _ else _
    rw [if_pos h]
  · rw [if_neg h]
    show (ofDigits _ _ _).toChars = if x.significand = 0 then _ else _
    rw [if_neg h, toChars_ofDigits _ (Decimal.digits_ne_nil _)]

theorem isWellFormed_ofBinary (x : Binary64) : (ofBinary x).IsWellFormed := by
  unfold ofBinary
  split_ifs with h
  · have hzero : IsRun ['0'] := isRun_digits 0
    refine ⟨hzero, .inl rfl, ?_, by simp⟩
    rintro _ ⟨⟩
    exact hzero
  · have hpos := (shortest_roundsTo (Nat.pos_of_ne_zero h) x.canonical).1
    exact isWellFormed_ofDigits _ (isRun_digits _) (Decimal.head?_digits_ne_zero hpos) _

theorem negative_ofBinary (x : Binary64) : (ofBinary x).negative = x.negative := by
  unfold ofBinary
  split_ifs
  · rfl
  · exact negative_ofDigits _ _ _

theorem not_plain_ofBinary (x : Binary64) :
    ¬ ((ofBinary x).fraction = none ∧ (ofBinary x).exponent = none) := by
  unfold ofBinary
  split_ifs
  · simp
  · exact not_plain_ofDigits _ _ _

theorem magnitude_ofBinary_of_eq_zero {x : Binary64} (h : x.significand = 0) :
    (ofBinary x).magnitude = 0 := by
  unfold ofBinary
  rw [if_pos h]
  show ((Decimal.value (List.replicate 2 '0' ++ []) : Nat) : ℚ) * _ = 0
  rw [Decimal.value_zeros_append]
  exact zero_mul _

/-- The numeral of a double that is not zero denotes a positive number that rounds to it. -/
theorem roundsTo_magnitude_ofBinary {x : Binary64} (h : x.significand ≠ 0) :
    0 < (ofBinary x).magnitude ∧ RoundsTo x.significand x.exponent (ofBinary x).magnitude := by
  obtain ⟨hpos, hround⟩ := shortest_roundsTo (Nat.pos_of_ne_zero h) x.canonical
  have hvalue : (ofBinary x).magnitude =
      (shortest x.significand x.exponent).1 * 10 ^ (shortest x.significand x.exponent).2 := by
    unfold ofBinary
    rw [if_neg h, magnitude_ofDigits _ (Decimal.digits_ne_nil _), Decimal.value_digits]
    congr 2
    omega
  have hpos' : (0 : ℚ) < (shortest x.significand x.exponent).1 := by exact_mod_cast hpos
  rw [hvalue]
  exact ⟨mul_pos hpos' (ten_zpow_pos _), hround⟩

/-- Two doubles with the same numeral are the same. -/
theorem ofBinary_injective {x y : Binary64} (h : ofBinary x = ofBinary y) : x = y := by
  have hneg : x.negative = y.negative := by
    rw [← negative_ofBinary x, h, negative_ofBinary]
  have hmagnitude : (ofBinary x).magnitude = (ofBinary y).magnitude := by rw [h]
  have hsame : x.significand = y.significand ∧ x.exponent = y.exponent := by
    by_cases hxz : x.significand = 0
    · by_cases hyz : y.significand = 0
      · -- A zero has the least exponent.
        have hxe := x.canonical.2.2.2
        have hye := y.canonical.2.2.2
        rw [hxz] at hxe
        rw [hyz] at hye
        have hbig : ¬ Nat.pow 2 52 ≤ 0 := by decide
        exact ⟨hxz.trans hyz.symm,
          (hxe.resolve_left hbig).trans (hye.resolve_left hbig).symm⟩
      · have hpos := (roundsTo_magnitude_ofBinary hyz).1
        rw [← hmagnitude, magnitude_ofBinary_of_eq_zero hxz] at hpos
        exact absurd hpos (lt_irrefl 0)
    · obtain ⟨hpos, hx⟩ := roundsTo_magnitude_ofBinary hxz
      rw [hmagnitude] at hpos hx
      by_cases hyz : y.significand = 0
      · rw [magnitude_ofBinary_of_eq_zero hyz] at hpos
        exact absurd hpos (lt_irrefl 0)
      · exact eq_of_roundsTo x.canonical y.canonical hx (roundsTo_magnitude_ofBinary hyz).2
  cases x
  cases y
  simp only at hneg hsame
  obtain ⟨rfl, rfl⟩ := hsame
  cases hneg
  rfl

/-! ## Numerals of numbers -/

/-- The numeral of a number. -/
def ofNumber : Number → Numeral
  | .int i => ofInt i
  | .float x => ofBinary x

theorem toChars_ofNumber (n : Number) : (ofNumber n).toChars = n.render := by
  cases n with
  | int i => exact toChars_ofInt i
  | float x => exact toChars_ofBinary x

theorem isWellFormed_ofNumber (n : Number) : (ofNumber n).IsWellFormed := by
  cases n with
  | int i => exact isWellFormed_ofInt i
  | float x => exact isWellFormed_ofBinary x

theorem ofNumber_injective {a b : Number} (h : ofNumber a = ofNumber b) : a = b := by
  cases a with
  | int i =>
    cases b with
    | int j =>
      have htext := congrArg toChars h
      rw [toChars_ofNumber, toChars_ofNumber] at htext
      exact congrArg Number.int (Decimal.ofInt_injective htext)
    | float y =>
      have hplain := plain_ofInt i
      change ofInt i = ofBinary y at h
      rw [h] at hplain
      exact absurd hplain (not_plain_ofBinary y)
  | float x =>
    cases b with
    | int j =>
      have hplain := plain_ofInt j
      change ofBinary x = ofInt j at h
      rw [← h] at hplain
      exact absurd hplain (not_plain_ofBinary x)
    | float y => exact congrArg Number.float (ofBinary_injective h)

end Numeral

/-- The text of a number tells the number, wherever nothing follows that could continue it. -/
theorem Number.render_append_injective {a b : Number} {r s : List Char}
    (hr : r.head?.all Numeral.endsNumber) (hs : s.head?.all Numeral.endsNumber)
    (h : a.render ++ r = b.render ++ s) : a = b ∧ r = s := by
  rw [← Numeral.toChars_ofNumber, ← Numeral.toChars_ofNumber] at h
  obtain ⟨hab, hrs⟩ := Numeral.toChars_append_injective (Numeral.isWellFormed_ofNumber a)
    (Numeral.isWellFormed_ofNumber b) hr hs h
  exact ⟨Numeral.ofNumber_injective hab, hrs⟩

end WebhookClient.Json
