import Mathlib
import WebhookClient.Proofs.Binary64.Interval

/-!
# The shortest decimal text rounds back

The search for the digits of a double starts at a power of ten that is not above it, and ends
within 18 places, where the grid is finer than the interval of the double. Main statement:
`shortest_roundsTo`.
-/

set_option autoImplicit false

namespace WebhookClient.Binary64

variable {m : Nat} {q : Int}

theorem ten_zpow_pos (e : Int) : (0 : ℚ) < 10 ^ e := zpow_pos (by norm_num) e

/-! ## Where the search starts -/

/-- Ten times a power of ten is compared with a power of two by `10 ^ 3 ≤ 2 ^ 10`, and by
`2 ^ 33 ≤ 10 ^ 10` below one. -/
theorem ten_zpow_le_two_zpow {n l : Int} (hpos : 0 ≤ n → 10 * n ≤ 3 * l)
    (hneg : n ≤ 0 → 33 * n ≤ 10 * l) : (10 : ℚ) ^ n ≤ 2 ^ l := by
  have hten := (ten_zpow_pos n).le
  have htwo := (two_zpow_pos l).le
  -- Powers of one exponent are compared by their bases, which is why `n` and `l` are scaled.
  rcases le_total 0 n with h | h
  · refine (pow_le_pow_iff_left₀ hten htwo (n := 3) (by norm_num)).1 ?_
    calc ((10 : ℚ) ^ n) ^ 3 = (10 ^ (3 : Int)) ^ n := by
          rw [← zpow_natCast, ← zpow_mul, ← zpow_mul, mul_comm]
          rfl
      _ ≤ (2 ^ (10 : Int)) ^ n := zpow_le_zpow_left₀ h (by norm_num) (by norm_num)
      _ = 2 ^ (10 * n) := (zpow_mul _ _ _).symm
      _ ≤ 2 ^ (l * 3) := zpow_le_zpow_right₀ (by norm_num) (by linarith [hpos h])
      _ = (2 ^ l) ^ 3 := by
          rw [zpow_mul, ← zpow_natCast]
          rfl
  · have hbase : ((2 : ℚ) ^ (33 : Int)) ^ (-n) ≤ (10 ^ (10 : Int)) ^ (-n) :=
      zpow_le_zpow_left₀ (by omega) (by norm_num) (by norm_num)
    have hinv := inv_anti₀ (zpow_pos (two_zpow_pos 33) (-n)) hbase
    rw [zpow_neg, zpow_neg, inv_inv, inv_inv] at hinv
    refine (pow_le_pow_iff_left₀ hten htwo (n := 10) (by norm_num)).1 ?_
    calc ((10 : ℚ) ^ n) ^ 10 = (10 ^ (10 : Int)) ^ n := by
          rw [← zpow_natCast, ← zpow_mul, ← zpow_mul, mul_comm]
          rfl
      _ ≤ (2 ^ (33 : Int)) ^ n := hinv
      _ = 2 ^ (33 * n) := (zpow_mul _ _ _).symm
      _ ≤ 2 ^ (l * 10) := zpow_le_zpow_right₀ (by norm_num) (by linarith [hneg h])
      _ = (2 ^ l) ^ 10 := by
          rw [zpow_mul, ← zpow_natCast]
          rfl

/-- The estimate of the decimal exponent is at most four too large. -/
theorem ten_zpow_estimate_le (hm : 0 < m) (hq : IsCanonical m q) :
    (10 : ℚ) ^ (((m.log2 : Int) + q + 1) * 30103 / 100000 + 1 - 4) ≤ m * 2 ^ q := by
  obtain ⟨hm53, hmin, hmax, -⟩ := hq
  have hlog : m.log2 < 53 := (Nat.log2_lt hm.ne').2 hm53
  have hmin' : -1074 ≤ q := hmin
  have hmax' : q ≤ 971 := hmax
  have hpow : (2 : ℚ) ^ ((m.log2 : Int) + q) ≤ m * 2 ^ q := by
    rw [zpow_add₀ (by norm_num), zpow_natCast]
    refine mul_le_mul_of_nonneg_right ?_ (two_zpow_pos q).le
    exact_mod_cast Nat.log2_self_le hm.ne'
  refine le_trans (ten_zpow_le_two_zpow ?_ ?_) hpow
  · intro h
    omega
  · intro h
    omega

/-- The search starts at a power of ten that is not above the number. -/
theorem ten_zpow_decimalExponent_le {r : Ratio} (hr : 0 < r.den) (tries : Nat) (k : Int)
    (h : (10 : ℚ) ^ (k - tries) ≤ r.toRat) : (10 : ℚ) ^ decimalExponent r tries k ≤ r.toRat := by
  induction tries generalizing k with
  | zero =>
    rw [Nat.cast_zero, sub_zero] at h
    exact h
  | succ tries ih =>
    unfold decimalExponent
    split_ifs with hle
    · rw [Ratio.le_iff (Ratio.den_ofDecimal_pos _ _) hr, Ratio.toRat_ofDecimal, Nat.cast_one,
        one_mul] at hle
      exact hle
    · refine ih (k - 1) ?_
      rw [Nat.cast_succ] at h
      rw [show k - 1 - (tries : Int) = k - (tries + 1) by ring]
      exact h

/-! ## Neighbours on a grid -/

/-- A neighbour that is chosen rounds to the number. -/
theorem roundsTo_of_betterNeighbour (hm : 0 < m) {below d : Nat} {e : Int}
    (h : betterNeighbour m q below e = some d) : 0 < d ∧ RoundsTo m q (d * 10 ^ e) := by
  have hden := Ratio.den_ofDecimal_pos
  have hlo : (roundsTo m q (Ratio.ofDecimal below e) && decide (0 < below)) = true →
      0 < below ∧ RoundsTo m q (below * 10 ^ e) := by
    intro hlo
    rw [Bool.and_eq_true, roundsTo_iff hm (hden _ _), Ratio.toRat_ofDecimal,
      decide_eq_true_eq] at hlo
    exact hlo.symm
  have hhi : roundsTo m q (Ratio.ofDecimal (below + 1) e) = true →
      0 < below + 1 ∧ RoundsTo m q ((below + 1 : Nat) * 10 ^ e) := by
    intro hhi
    rw [roundsTo_iff hm (hden _ _), Ratio.toRat_ofDecimal] at hhi
    exact ⟨Nat.succ_pos _, hhi⟩
  unfold betterNeighbour at h
  simp only at h
  split at h
  · cases h
  · next hl _ =>
    cases h
    exact hlo hl
  · next _ hr =>
    cases h
    exact hhi hr
  · next hl hr =>
    -- Both neighbours round to the number, so it does not matter which one is nearer.
    split_ifs at h <;> cases h
    · exact hlo hl
    · exact hhi hr
    · exact hlo hl
    · exact hhi hr

/-- The multiple of a step below a number, and the next one. -/
theorem div_mul_le_lt {v step : Ratio} (hv : 0 < v.den) (hs : 0 < step.den) (hn : 0 < step.num) :
    v.toRat < ((v.num * step.den / (v.den * step.num) + 1 : Nat) : ℚ) * step.toRat ∧
      ((v.num * step.den / (v.den * step.num) : Nat) : ℚ) * step.toRat ≤ v.toRat := by
  have hv' : (0 : ℚ) < v.den := by exact_mod_cast hv
  have hs' : (0 : ℚ) < step.den := by exact_mod_cast hs
  have hd : 0 < v.den * step.num := Nat.mul_pos hv hn
  have hlt := Nat.lt_mul_of_div_lt (Nat.lt_succ_self (v.num * step.den / (v.den * step.num))) hd
  have hle := Nat.div_mul_le_self (v.num * step.den) (v.den * step.num)
  generalize v.num * step.den / (v.den * step.num) = below at hlt hle ⊢
  unfold Ratio.toRat
  rw [← mul_div_assoc, ← mul_div_assoc, div_lt_div_iff₀ hv' hs', div_le_div_iff₀ hs' hv']
  constructor
  · have : v.num * step.den < (below + 1) * step.num * v.den := by
      calc v.num * step.den < (below + 1) * (v.den * step.num) := hlt
        _ = (below + 1) * step.num * v.den := by ring
    exact_mod_cast this
  · have : below * step.num * v.den ≤ v.num * step.den := by
      calc below * step.num * v.den = below * (v.den * step.num) := by ring
        _ ≤ v.num * step.den := hle
    exact_mod_cast this

/-- On a grid finer than half a unit the neighbour above rounds to the number. -/
theorem roundsTo_of_fine {s x : ℚ} (hs : s < 2 ^ (q - 1)) (hlt : (m : ℚ) * 2 ^ q < x)
    (hle : x ≤ m * 2 ^ q + s) : RoundsTo m q x := by
  have hq : (2 : ℚ) ^ q = 4 * 2 ^ (q - 2) := by
    rw [zpow_sub₀ (by norm_num)]
    ring
  have hq1 : (2 : ℚ) ^ (q - 1) = 2 * 2 ^ (q - 2) := by
    rw [zpow_sub₀ (by norm_num), zpow_sub₀ (by norm_num)]
    ring
  have hlow : (4 * m - reachBelow m q : ℚ) * 2 ^ (q - 2) < x := by
    refine lt_of_le_of_lt ?_ hlt
    rw [hq, ← mul_assoc, mul_comm (m : ℚ)]
    refine mul_le_mul_of_nonneg_right ?_ (two_zpow_pos _).le
    linarith [(Nat.cast_nonneg (reachBelow m q) : (0 : ℚ) ≤ reachBelow m q)]
  have hhigh : x < (4 * m + 2 : ℚ) * 2 ^ (q - 2) := by
    calc x ≤ m * 2 ^ q + s := hle
      _ < m * 2 ^ q + 2 ^ (q - 1) := by linarith
      _ = (4 * m + 2 : ℚ) * 2 ^ (q - 2) := by
          rw [hq, hq1]
          ring
  exact ⟨hlow.le, hhigh.le, fun _ => ⟨hlow.ne, hhigh.ne⟩⟩

/-! ## The search -/

/-- The number of whole steps of `10 ^ e` below `m * 2 ^ q`. -/
def stepsBelow (m : Nat) (q e : Int) : Nat :=
  (Ratio.ofScaled m q).num * (Ratio.ofDecimal 1 e).den /
    ((Ratio.ofScaled m q).den * (Ratio.ofDecimal 1 e).num)

theorem findShortest_of_some {e : Int} {d : Nat} (tries : Nat)
    (h : betterNeighbour m q (stepsBelow m q e) e = some d) :
    findShortest m q (tries + 1) e = (d, e) := by
  unfold stepsBelow at h
  simp only [findShortest, h]

theorem findShortest_of_none {e : Int} (tries : Nat)
    (h : betterNeighbour m q (stepsBelow m q e) e = none) :
    findShortest m q (tries + 1) e = findShortest m q tries (e - 1) := by
  unfold stepsBelow at h
  simp only [findShortest, h]

/-- On a grid finer than half a unit a neighbour rounds to the number. -/
theorem betterNeighbour_ne_none (hm : 0 < m) {e : Int} (hfine : (10 : ℚ) ^ e < 2 ^ (q - 1)) :
    betterNeighbour m q (stepsBelow m q e) e ≠ none := by
  have hone : 0 < (Ratio.ofDecimal 1 e).num := by
    unfold Ratio.ofDecimal
    split_ifs
    · exact Nat.mul_pos Nat.one_pos (Nat.pow_pos (by decide))
    · exact Nat.one_pos
  have hgrid := div_mul_le_lt (Ratio.den_ofScaled_pos m q) (Ratio.den_ofDecimal_pos 1 e) hone
  change _ < ((stepsBelow m q e + 1 : Nat) : ℚ) * _ ∧ (stepsBelow m q e : ℚ) * _ ≤ _ at hgrid
  rw [Ratio.toRat_ofScaled, Ratio.toRat_ofDecimal, Nat.cast_one, one_mul] at hgrid
  generalize stepsBelow m q e = below at hgrid ⊢
  have hrounds : roundsTo m q (Ratio.ofDecimal (below + 1) e) = true := by
    rw [roundsTo_iff hm (Ratio.den_ofDecimal_pos _ _), Ratio.toRat_ofDecimal]
    refine roundsTo_of_fine hfine hgrid.1 ?_
    push_cast
    linarith [hgrid.2]
  -- The neighbour above rounds to the number, so one of the two is chosen.
  unfold betterNeighbour
  simp only [hrounds]
  split
  · next h => cases h
  · simp
  · simp
  · split_ifs <;> simp

/-- The search finds digits if it reaches a grid finer than half a unit. -/
theorem findShortest_roundsTo (hm : 0 < m) (tries : Nat) (e : Int)
    (hfine : (10 : ℚ) ^ (e - tries) < 2 ^ (q - 1)) :
    0 < (findShortest m q (tries + 1) e).1 ∧
      RoundsTo m q
        ((findShortest m q (tries + 1) e).1 * 10 ^ (findShortest m q (tries + 1) e).2) := by
  induction tries generalizing e with
  | zero =>
    rw [Nat.cast_zero, sub_zero] at hfine
    cases h : betterNeighbour m q (stepsBelow m q e) e with
    | some d =>
      rw [findShortest_of_some 0 h]
      exact roundsTo_of_betterNeighbour hm h
    | none => exact absurd h (betterNeighbour_ne_none hm hfine)
  | succ tries ih =>
    cases h : betterNeighbour m q (stepsBelow m q e) e with
    | some d =>
      rw [findShortest_of_some (tries + 1) h]
      exact roundsTo_of_betterNeighbour hm h
    | none =>
      rw [findShortest_of_none (tries + 1) h]
      refine ih (e - 1) ?_
      rw [Nat.cast_succ] at hfine
      rw [show e - 1 - (tries : Int) = e - (tries + 1) by ring]
      exact hfine

/-- Dropping zeros moves them to the exponent. -/
theorem dropZeros_spec (tries d : Nat) :
    (dropZeros tries d).1 * 10 ^ (dropZeros tries d).2 = d := by
  induction tries generalizing d with
  | zero => exact Nat.mul_one d
  | succ tries ih =>
    unfold dropZeros
    split_ifs with h
    · show (dropZeros tries (d / 10)).1 * 10 ^ ((dropZeros tries (d / 10)).2 + 1) = d
      rw [pow_succ, ← mul_assoc, ih (d / 10)]
      omega
    · exact Nat.mul_one d

/-- The shortest decimal of a positive double rounds to it. -/
theorem shortest_roundsTo (hm : 0 < m) (hq : IsCanonical m q) :
    0 < (shortest m q).1 ∧ RoundsTo m q ((shortest m q).1 * 10 ^ (shortest m q).2) := by
  have hden := Ratio.den_ofScaled_pos m q
  have hstart : (10 : ℚ) ^ decimalExponent (Ratio.ofScaled m q) 4
      (((m.log2 : Int) + q + 1) * 30103 / 100000 + 1) ≤ m * 2 ^ q := by
    have h := ten_zpow_decimalExponent_le hden 4 (((m.log2 : Int) + q + 1) * 30103 / 100000 + 1)
    rw [Ratio.toRat_ofScaled] at h
    exact h (ten_zpow_estimate_le hm hq)
  unfold shortest
  simp only
  generalize decimalExponent (Ratio.ofScaled m q) 4
    (((m.log2 : Int) + q + 1) * 30103 / 100000 + 1) = k at hstart
  have hm53 : (m : ℚ) < 2 ^ 53 := by exact_mod_cast hq.1
  -- Seventeen places below the first one the grid is finer than half a unit: `2 ^ 54 ≤ 10 ^ 17`.
  have hfine : (10 : ℚ) ^ (k - (17 : Nat)) < 2 ^ (q - 1) := by
    have hq1 : (2 : ℚ) ^ q = 2 * 2 ^ (q - 1) := by
      rw [zpow_sub₀ (by norm_num)]
      ring
    have hpos := two_zpow_pos (q - 1)
    rw [zpow_sub₀ (by norm_num), div_lt_iff₀ (by norm_num)]
    calc (10 : ℚ) ^ k ≤ m * 2 ^ q := hstart
      _ < 2 ^ 53 * 2 ^ q := mul_lt_mul_of_pos_right hm53 (two_zpow_pos q)
      _ = 2 ^ (q - 1) * 2 ^ 54 := by
          rw [hq1]
          ring
      _ ≤ 2 ^ (q - 1) * 10 ^ ((17 : Nat) : Int) := by
          refine mul_le_mul_of_nonneg_left ?_ hpos.le
          norm_num
  -- The zeros that are dropped move to the exponent and leave the value as it is.
  have hfound := findShortest_roundsTo hm 17 k hfine
  generalize findShortest m q (17 + 1) k = found at hfound
  have hdrop := dropZeros_spec 20 found.1
  generalize dropZeros 20 found.1 = dropped at hdrop
  have hpos : 0 < dropped.1 := by
    rcases Nat.eq_zero_or_pos dropped.1 with h | h
    · rw [h, Nat.zero_mul] at hdrop
      omega
    · exact h
  have hvalue : (dropped.1 : ℚ) * 10 ^ (found.2 + dropped.2) = found.1 * 10 ^ found.2 := by
    rw [← hdrop, Nat.cast_mul, Nat.cast_pow, Nat.cast_ofNat, zpow_add₀ (by norm_num), zpow_natCast]
    ring
  refine ⟨hpos, ?_⟩
  show RoundsTo m q (dropped.1 * 10 ^ (found.2 + dropped.2))
  rw [hvalue]
  exact hfound.2

end WebhookClient.Binary64
