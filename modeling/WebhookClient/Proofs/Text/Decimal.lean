import Mathlib
import WebhookClient.Text.Decimal

/-!
# Decimal texts tell numbers apart

The characters and the lengths of decimal texts, and that no two numbers have the same one.
-/

set_option autoImplicit false

namespace WebhookClient.Decimal

variable {n w : Nat} {c : Char}

/-! ## Digits -/

theorem digits_injective {m n : Nat} (h : digits m = digits n) : m = n := by
  rw [← value_digits m, h, value_digits]

theorem length_digits_le (hw : 0 < w) (h : n < 10 ^ w) : (digits n).length ≤ w :=
  (Nat.length_toDigits_le_iff (by decide) hw).2 h

/-- The digits of a positive number do not start with a zero. -/
theorem head?_digits_ne_zero (h : 0 < n) : (digits n).head? ≠ some '0' := by
  induction n using Nat.strong_induction_on with
  | _ n ih =>
    unfold digits at ih ⊢
    rw [Nat.toDigits_eq_if (by decide)]
    split_ifs with hlt
    · show some n.digitChar ≠ some '0'
      interval_cases n <;> decide
    · have hhead := ih (n / 10) (by omega) (by omega)
      rw [List.head?_append_of_ne_nil _ Nat.toDigits_ne_nil]
      exact hhead

/-! ## Values of joined digits -/

theorem value_zeros_append (k : Nat) (ds : List Char) :
    value (List.replicate k '0' ++ ds) = value ds := by
  unfold value
  rw [Nat.ofDigitChars_append, Nat.ofDigitChars_replicate_zero, Nat.mul_zero]

theorem value_append_zeros (k : Nat) (ds : List Char) :
    value (ds ++ List.replicate k '0') = value ds * 10 ^ k := by
  unfold value
  rw [Nat.ofDigitChars_append, Nat.ofDigitChars_replicate_zero, mul_comm]

theorem value_append (ds es : List Char) :
    value (ds ++ es) = value ds * 10 ^ es.length + value es := by
  unfold value
  rw [Nat.ofDigitChars_append, Nat.ofDigitChars_eq_ofDigitChars_zero, mul_comm]

theorem value_cons (c : Char) (ds : List Char) :
    value (c :: ds) = (c.toNat - '0'.toNat) * 10 ^ ds.length + value ds := by
  unfold value
  rw [Nat.ofDigitChars_cons, Nat.ofDigitChars_eq_ofDigitChars_zero, Nat.mul_zero, Nat.zero_add,
    mul_comm]

theorem toNat_sub_le_of_isDigit (h : c.isDigit = true) : c.toNat - '0'.toNat ≤ 9 := by
  simp only [Char.isDigit, Bool.and_eq_true, decide_eq_true_eq] at h
  have hhigh : c.toNat ≤ 57 := h.2
  have hzero : '0'.toNat = 48 := rfl
  omega

/-- A run of digits denotes less than the number of the next length. -/
theorem value_lt {ds : List Char} (h : ∀ c ∈ ds, c.isDigit = true) : value ds < 10 ^ ds.length := by
  induction ds with
  | nil => exact Nat.one_pos
  | cons c ds ih =>
    obtain ⟨hc, hds⟩ := List.forall_mem_cons.1 h
    have hdigit := Nat.mul_le_mul_right (10 ^ ds.length) (toNat_sub_le_of_isDigit hc)
    have hrest := ih hds
    rw [value_cons, List.length_cons, pow_succ]
    omega

/-! ## Padded digits -/

theorem isDigit_of_mem_padded (h : c ∈ padded w n) : c.isDigit = true := by
  obtain h | h := List.mem_append.1 h
  · rw [List.eq_of_mem_replicate h]
    rfl
  · exact isDigit_of_mem_digits h

theorem length_padded_of_lt (hw : 0 < w) (h : n < 10 ^ w) : (padded w n).length = w := by
  rw [length_padded, max_eq_left (length_digits_le hw h)]

theorem padded_ne_nil (w n : Nat) : padded w n ≠ [] := by
  simp [padded, digits_ne_nil]

/-- A run of digits ends where something else stands. -/
theorem takeWhile_isDigit_append {ds cs : List Char} (hds : ∀ c ∈ ds, c.isDigit = true)
    (hcs : cs.head?.all fun c => !c.isDigit) :
    (ds ++ cs).takeWhile Char.isDigit = ds ∧ (ds ++ cs).dropWhile Char.isDigit = cs := by
  rw [List.takeWhile_append_of_pos hds, List.dropWhile_append_of_pos hds]
  cases cs with
  | nil => simp
  | cons c cs =>
    have hc : c.isDigit = false := by simpa using hcs
    simp [hc]

/-! ## Integers -/

/-- The minus sign is no digit. -/
theorem not_mem_digits_minus (n : Nat) : '-' ∉ digits n := fun h =>
  absurd (isDigit_of_mem_digits h) (by decide)

theorem ofInt_injective {i j : Int} (h : ofInt i = ofInt j) : i = j := by
  cases i with
  | ofNat m =>
    cases j with
    | ofNat n => exact congrArg Int.ofNat (digits_injective h)
    | negSucc n =>
      have hminus : '-' ∈ digits m := by
        show '-' ∈ ofInt (.ofNat m)
        rw [h]
        simp [ofInt]
      exact absurd hminus (not_mem_digits_minus m)
  | negSucc m =>
    cases j with
    | ofNat n =>
      have hminus : '-' ∈ digits n := by
        show '-' ∈ ofInt (.ofNat n)
        rw [← h]
        simp [ofInt]
      exact absurd hminus (not_mem_digits_minus n)
    | negSucc n =>
      have hdigits := digits_injective (List.tail_eq_of_cons_eq h)
      rw [Nat.succ.inj hdigits]

theorem intText_injective {i j : Int} (h : intText i = intText j) : i = j :=
  ofInt_injective (String.ofList_injective h)

end WebhookClient.Decimal
