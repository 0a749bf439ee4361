import Mathlib
import WebhookClient.Binary64.Shortest

/-!
# The numbers that round to a double

Ratios are compared as rational numbers. A rational number lies in the interval of one double at
most, so the number that a text denotes tells which double the text was written for. Main
statement: `eq_of_roundsTo`.
-/

set_option autoImplicit false

namespace WebhookClient.Binary64

/-! ## Ratios -/

namespace Ratio

/-- The rational number of a ratio. -/
def toRat (r : Ratio) : ℚ := r.num / r.den

theorem lt_iff {a b : Ratio} (ha : 0 < a.den) (hb : 0 < b.den) :
    a.lt b = true ↔ a.toRat < b.toRat := by
  have ha' : (0 : ℚ) < a.den := by exact_mod_cast ha
  have hb' : (0 : ℚ) < b.den := by exact_mod_cast hb
  unfold lt toRat
  rw [decide_eq_true_eq, div_lt_div_iff₀ ha' hb']
  exact_mod_cast Iff.rfl

theorem le_iff {a b : Ratio} (ha : 0 < a.den) (hb : 0 < b.den) :
    a.le b = true ↔ a.toRat ≤ b.toRat := by
  have ha' : (0 : ℚ) < a.den := by exact_mod_cast ha
  have hb' : (0 : ℚ) < b.den := by exact_mod_cast hb
  unfold le toRat
  rw [decide_eq_true_eq, div_le_div_iff₀ ha' hb']
  exact_mod_cast Iff.rfl

theorem den_ofScaled_pos (m : Nat) (e : Int) : 0 < (ofScaled m e).den := by
  unfold ofScaled
  split_ifs
  · exact Nat.one_pos
  · exact Nat.pow_pos (by decide)

theorem den_ofDecimal_pos (d : Nat) (e : Int) : 0 < (ofDecimal d e).den := by
  unfold ofDecimal
  split_ifs
  · exact Nat.one_pos
  · exact Nat.pow_pos (by decide)

theorem cast_pow_toNat {e : Int} (b : Nat) (h : 0 ≤ e) :
    ((Nat.pow b e.toNat : Nat) : ℚ) = (b : ℚ) ^ e := by
  show ((b ^ e.toNat : Nat) : ℚ) = (b : ℚ) ^ e
  rw [Nat.cast_pow, ← zpow_natCast, Int.toNat_of_nonneg h]

theorem toRat_ofScaled (m : Nat) (e : Int) : (ofScaled m e).toRat = m * (2 : ℚ) ^ e := by
  unfold ofScaled toRat
  split_ifs with h
  · simp only [Nat.cast_mul, Nat.cast_one, div_one, cast_pow_toNat 2 h, Nat.cast_ofNat]
  · have hneg : 0 ≤ -e := by omega
    simp only [cast_pow_toNat 2 hneg, zpow_neg, div_inv_eq_mul, Nat.cast_ofNat]

theorem toRat_ofDecimal (d : Nat) (e : Int) : (ofDecimal d e).toRat = d * (10 : ℚ) ^ e := by
  unfold ofDecimal toRat
  split_ifs with h
  · simp only [Nat.cast_mul, Nat.cast_one, div_one, cast_pow_toNat 10 h, Nat.cast_ofNat]
  · have hneg : 0 ≤ -e := by omega
    simp only [cast_pow_toNat 10 hneg, zpow_neg, div_inv_eq_mul, Nat.cast_ofNat]

end Ratio

/-! ## Intervals -/

/-- How far the interval of a double reaches below it, in quarters of its unit. -/
def reachBelow (m : Nat) (q : Int) : Nat := if m = Nat.pow 2 52 ∧ minExponent < q then 1 else 2

theorem reachBelow_pos_le (m : Nat) (q : Int) : 1 ≤ reachBelow m q ∧ reachBelow m q ≤ 2 := by
  unfold reachBelow
  split_ifs <;> decide

/-- A rational number rounds to the double `m * 2 ^ q`. The interval ends half way to its
neighbours, and the ends belong to it if `m` is even. -/
def RoundsTo (m : Nat) (q : Int) (r : ℚ) : Prop :=
  (4 * m - reachBelow m q : ℚ) * 2 ^ (q - 2) ≤ r ∧ r ≤ (4 * m + 2 : ℚ) * 2 ^ (q - 2) ∧
    (m % 2 = 1 →
      (4 * m - reachBelow m q : ℚ) * 2 ^ (q - 2) ≠ r ∧ r ≠ (4 * m + 2 : ℚ) * 2 ^ (q - 2))

theorem roundsTo_iff {m : Nat} {q : Int} {r : Ratio} (hm : 0 < m) (hr : 0 < r.den) :
    roundsTo m q r = true ↔ RoundsTo m q r.toRat := by
  have hle : reachBelow m q ≤ 4 * m := by
    have := (reachBelow_pos_le m q).2
    omega
  have hlow : (Ratio.ofScaled (4 * m - reachBelow m q) (q - 2)).toRat =
      (4 * m - reachBelow m q : ℚ) * 2 ^ (q - 2) := by
    rw [Ratio.toRat_ofScaled, Nat.cast_sub hle, Nat.cast_mul, Nat.cast_ofNat]
  have hhigh : (Ratio.ofScaled (4 * m + 2) (q - 2)).toRat =
      (4 * m + 2 : ℚ) * 2 ^ (q - 2) := by
    rw [Ratio.toRat_ofScaled, Nat.cast_add, Nat.cast_mul, Nat.cast_ofNat, Nat.cast_ofNat]
  have hden := Ratio.den_ofScaled_pos
  show (if m % 2 = 0 then (Ratio.ofScaled (4 * m - reachBelow m q) (q - 2)).le r &&
      r.le (Ratio.ofScaled (4 * m + 2) (q - 2))
    else (Ratio.ofScaled (4 * m - reachBelow m q) (q - 2)).lt r &&
      r.lt (Ratio.ofScaled (4 * m + 2) (q - 2))) = true ↔ _
  unfold RoundsTo
  by_cases heven : m % 2 = 0
  · rw [if_pos heven, Bool.and_eq_true, Ratio.le_iff (hden _ _) hr, Ratio.le_iff hr (hden _ _),
      hlow, hhigh]
    constructor
    · rintro ⟨h1, h2⟩
      exact ⟨h1, h2, fun hodd => absurd hodd (by omega)⟩
    · rintro ⟨h1, h2, -⟩
      exact ⟨h1, h2⟩
  · have hodd : m % 2 = 1 := by omega
    rw [if_neg heven, Bool.and_eq_true, Ratio.lt_iff (hden _ _) hr, Ratio.lt_iff hr (hden _ _),
      hlow, hhigh]
    constructor
    · rintro ⟨h1, h2⟩
      exact ⟨h1.le, h2.le, fun _ => ⟨h1.ne, h2.ne⟩⟩
    · rintro ⟨h1, h2, h⟩
      exact ⟨lt_of_le_of_ne h1 (h hodd).1, lt_of_le_of_ne h2 (h hodd).2⟩

/-! ## One double at most -/

section

variable {m n : Nat} {q s : Int} {r : ℚ}

theorem two_zpow_pos (e : Int) : (0 : ℚ) < 2 ^ e := zpow_pos (by norm_num) e

/-- Within one exponent a number rounds to no smaller significand as well. -/
theorem not_roundsTo_of_lt (hr : RoundsTo m q r) (hlt : m < n) : ¬ RoundsTo n q r := by
  rintro ⟨hlow, -, hodd⟩
  obtain ⟨-, hhigh, hodd'⟩ := hr
  have ht := two_zpow_pos (q - 2)
  have hreach : (reachBelow n q : ℚ) ≤ 2 := by exact_mod_cast (reachBelow_pos_le n q).2
  have hstep : (m : ℚ) + 1 ≤ n := by exact_mod_cast hlt
  have hends : (4 * m + 2 : ℚ) ≤ 4 * n - reachBelow n q := by linarith
  have hends' := mul_le_mul_of_nonneg_right hends ht.le
  have hr1 : r = (4 * m + 2 : ℚ) * 2 ^ (q - 2) := le_antisymm hhigh (hends'.trans hlow)
  have hr2 : (4 * n - reachBelow n q : ℚ) * 2 ^ (q - 2) = r :=
    le_antisymm hlow (hhigh.trans hends')
  -- The intervals touch, so the significands are neighbours and one of them is odd.
  have htouch : (4 * m + 2 : ℚ) = 4 * n - reachBelow n q :=
    mul_right_cancel₀ ht.ne' (hr1.symm.trans hr2.symm)
  have hnext : (n : ℚ) ≤ m + 1 := by linarith
  have hnext' : n = m + 1 := by
    have : n ≤ m + 1 := by exact_mod_cast hnext
    omega
  obtain hpar | hpar := Nat.mod_two_eq_zero_or_one m
  · exact (hodd (by omega)).1 hr2
  · exact (hodd' hpar).2 hr1

/-- Above the least exponent the interval of a double starts at `2 ^ 54 - 1` quarters or later. -/
theorem quarters_sub_reachBelow_ge (hn : IsCanonical n s) (hs : minExponent < s) :
    (18014398509481983 : ℚ) ≤ 4 * n - reachBelow n s := by
  have hn52 : 4503599627370496 ≤ n := by
    obtain h | h := hn.2.2.2
    · exact h
    · omega
  have hnat : 18014398509481983 + reachBelow n s ≤ 4 * n := by
    -- Only the least significand reaches down to the next exponent, where units are halved.
    by_cases h : n = 4503599627370496
    · have hone : reachBelow n s = 1 := if_pos ⟨h, hs⟩
      omega
    · have := (reachBelow_pos_le n s).2
      omega
  have hcast : ((18014398509481983 + reachBelow n s : Nat) : ℚ) ≤ ((4 * n : Nat) : ℚ) := by
    exact_mod_cast hnat
  push_cast at hcast
  linarith

/-- A number that rounds to a double of one exponent rounds to none of a greater exponent. -/
theorem not_roundsTo_of_exponent_lt (hm : IsCanonical m q) (hn : IsCanonical n s) (hlt : q < s)
    (hr : RoundsTo m q r) : ¬ RoundsTo n s r := by
  rintro ⟨hlow, -, -⟩
  obtain ⟨-, hhigh, hodd'⟩ := hr
  obtain ⟨hm53, hmin, -, -⟩ := hm
  have hm53' : m < 9007199254740992 := hm53
  have ht := two_zpow_pos (q - 2)
  have hdouble : (2 : ℚ) * 2 ^ (q - 2) ≤ 2 ^ (s - 2) := by
    have hsucc : (2 : ℚ) * 2 ^ (q - 2) = 2 ^ (q - 2 + 1) := by
      rw [zpow_add_one₀ (by norm_num), mul_comm]
    rw [hsucc]
    exact zpow_le_zpow_right₀ (by norm_num) (by omega)
  have hreach := quarters_sub_reachBelow_ge hn (lt_of_le_of_lt hmin hlt)
  have hbelow : (18014398509481983 : ℚ) * (2 * 2 ^ (q - 2)) ≤ r := by
    calc (18014398509481983 : ℚ) * (2 * 2 ^ (q - 2))
        ≤ 18014398509481983 * 2 ^ (s - 2) := by
          exact mul_le_mul_of_nonneg_left hdouble (by norm_num)
      _ ≤ (4 * n - reachBelow n s : ℚ) * 2 ^ (s - 2) :=
          mul_le_mul_of_nonneg_right hreach (two_zpow_pos _).le
      _ ≤ r := hlow
  have hm' : (m : ℚ) ≤ 9007199254740991 := by
    have : m ≤ 9007199254740991 := by omega
    exact_mod_cast this
  have hends : (4 * m + 2 : ℚ) * 2 ^ (q - 2) ≤ 18014398509481983 * (2 * 2 ^ (q - 2)) := by
    have : (4 * m + 2 : ℚ) ≤ 36028797018963966 := by linarith
    calc (4 * m + 2 : ℚ) * 2 ^ (q - 2) ≤ 36028797018963966 * 2 ^ (q - 2) :=
          mul_le_mul_of_nonneg_right this ht.le
      _ = 18014398509481983 * (2 * 2 ^ (q - 2)) := by ring
  -- The greatest significand is odd, and its interval does not hold its end.
  have hr1 : r = (4 * m + 2 : ℚ) * 2 ^ (q - 2) := le_antisymm hhigh (hends.trans hbelow)
  have hends' : (4 * m + 2 : ℚ) * 2 ^ (q - 2) = 18014398509481983 * (2 * 2 ^ (q - 2)) :=
    le_antisymm hends (hr1 ▸ hbelow)
  have htop : (4 * m + 2 : ℚ) = 36028797018963966 := by
    refine mul_right_cancel₀ ht.ne' (hends'.trans ?_)
    ring
  have htop' : m = 9007199254740991 := by
    have : (m : ℚ) = 9007199254740991 := by linarith
    exact_mod_cast this
  exact (hodd' (by omega)).2 hr1

/-- A number rounds to one double at most. -/
theorem eq_of_roundsTo (hm : IsCanonical m q) (hn : IsCanonical n s) (hr : RoundsTo m q r)
    (hr' : RoundsTo n s r) : m = n ∧ q = s := by
  obtain hlt | rfl | hlt := lt_trichotomy q s
  · exact absurd hr' (not_roundsTo_of_exponent_lt hm hn hlt hr)
  · obtain hlt | rfl | hlt := lt_trichotomy m n
    · exact absurd hr' (not_roundsTo_of_lt hr hlt)
    · exact ⟨rfl, rfl⟩
    · exact absurd hr (not_roundsTo_of_lt hr' hlt)
  · exact absurd hr (not_roundsTo_of_exponent_lt hn hm hlt hr')

end

end WebhookClient.Binary64
