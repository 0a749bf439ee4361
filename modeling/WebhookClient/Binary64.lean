/-!
# Double-precision numbers

A finite double-precision number is a sign and a significand times a power of two. Products and
quotients are exact ratios of natural numbers, rounded once to the nearest representable number,
a tie going to the even significand. A result above the largest number has no value here.
-/

set_option autoImplicit false

namespace WebhookClient

namespace Binary64

/-- The least exponent: numbers below it lose digits of the significand. -/
def minExponent : Int := -1074

/-- The greatest exponent of a finite number. -/
def maxExponent : Int := 971

/-- The form in which every number is kept: at most 53 binary digits, exactly 53 of them unless
the exponent is the least one. -/
def IsCanonical (significand : Nat) (exponent : Int) : Prop :=
  significand < Nat.pow 2 53 ∧ minExponent ≤ exponent ∧ exponent ≤ maxExponent ∧
    (Nat.pow 2 52 ≤ significand ∨ exponent = minExponent)

instance (significand : Nat) (exponent : Int) : Decidable (IsCanonical significand exponent) :=
  inferInstanceAs (Decidable (_ ∧ _ ∧ _ ∧ _))

end Binary64

/-- A finite double-precision number: `significand * 2 ^ exponent`, negated if `negative`. -/
structure Binary64 where
  negative : Bool
  significand : Nat
  exponent : Int
  canonical : Binary64.IsCanonical significand exponent
deriving DecidableEq, Repr

namespace Binary64

/-- The quotient of two numbers rounded to the nearest integer, a tie going to the even one. -/
def roundQuotient (num den : Nat) : Nat :=
  let m := num / den
  let r := num % den
  if den < 2 * r ∨ (2 * r = den ∧ m % 2 = 1) then m + 1 else m

/-- `num / den / 2 ^ q`, rounded to the nearest integer. -/
def scaled (num den : Nat) (q : Int) : Nat :=
  if 0 ≤ q then roundQuotient num (den * Nat.pow 2 q.toNat)
  else roundQuotient (num * Nat.pow 2 (-q).toNat) den

/-- The exponent at which the integer part of `num / den / 2 ^ q` has 53 binary digits, or the
least exponent if that is larger. -/
def ratioExponent (num den : Nat) : Int :=
  let q : Int := (num.log2 : Int) - den.log2 - 53
  let whole :=
    if 0 ≤ q then num / (den * Nat.pow 2 q.toNat) else num * Nat.pow 2 (-q).toNat / den
  max (if Nat.pow 2 53 ≤ whole then q + 1 else q) minExponent

/-- Positive or negative zero. -/
def zero (negative : Bool) : Binary64 := ⟨negative, 0, minExponent, by decide⟩

/-- Significand and exponent nearest to `num / den`. A significand of 54 digits is halved. -/
def nearest (num den : Nat) : Nat × Int :=
  let q := ratioExponent num den
  let m := scaled num den q
  if m = Nat.pow 2 53 then (Nat.pow 2 52, q + 1) else (m, q)

/-- The double nearest to `num / den`; `none` above the largest double. -/
def ofRatio (negative : Bool) (num den : Nat) : Option Binary64 :=
  if num = 0 then some (zero negative)
  else
    let (m, q) := nearest num den
    if h : IsCanonical m q then some ⟨negative, m, q, h⟩ else none

/-- The sign changed. -/
def neg (x : Binary64) : Binary64 := { x with negative := !x.negative }

/-- The double nearest to `m * 2 ^ e / d`. -/
def ofScaledRatio (negative : Bool) (m : Nat) (e : Int) (d : Nat) : Option Binary64 :=
  if 0 ≤ e then ofRatio negative (m * Nat.pow 2 e.toNat) d
  else ofRatio negative m (d * Nat.pow 2 (-e).toNat)

/-- The rounded product; `none` above the largest double. -/
def mul (x y : Binary64) : Option Binary64 :=
  ofScaledRatio (x.negative != y.negative) (x.significand * y.significand)
    (x.exponent + y.exponent) 1

/-- The rounded quotient by a number other than zero. -/
def div (x y : Binary64) : Option Binary64 :=
  ofScaledRatio (x.negative != y.negative) x.significand (x.exponent - y.exponent) y.significand

/-- The double nearest to a natural number. -/
def ofNat? (n : Nat) : Option Binary64 := ofRatio false n 1

/-- Equality of the numbers denoted: the two zeros are equal. -/
def numEq (x y : Binary64) : Bool :=
  x == y || (x.significand == 0 && y.significand == 0)

/-! ## Decimal scaling -/

/-- The largest power of ten with a double near it. -/
def maxPower : Nat := 308

/-- The double nearest to `10 ^ k`, for `k` up to `maxPower`. -/
def powerOfTen? (k : Nat) : Option Binary64 := ofNat? (Nat.pow 10 k)

/-- Divides by the largest power of ten a number of times, stopping at zero. -/
def divideOut : Nat → Binary64 → Option Binary64
  | 0, x => some x
  | n + 1, x =>
    if x.significand = 0 then some x
    else (powerOfTen? maxPower).bind fun p => (div x p).bind (divideOut n)

/-- `x * 10 ^ e`, by one rounded multiplication or division with the double nearest to the power
of ten. A number that needs a division by more than the largest power is first divided by that
one, as often as it takes. `none` above the largest double. -/
def scaleByTen (x : Binary64) (e : Int) : Option Binary64 :=
  if x.significand = 0 then some x
  else if 0 ≤ e then
    if e.toNat ≤ maxPower then (powerOfTen? e.toNat).bind (mul x) else none
  else
    let rounds := ((-e).toNat - 1) / maxPower
    (divideOut rounds x).bind fun y =>
      (powerOfTen? ((-e).toNat - rounds * maxPower)).bind (div y)

/-- `significand * 10 ^ e`, the significand rounded to a double first. -/
def ofDecimal? (significand : Nat) (e : Int) : Option Binary64 :=
  (ofNat? significand).bind fun x => scaleByTen x e

end Binary64

end WebhookClient
