import WebhookClient.Binary64
import WebhookClient.Text.Decimal

/-!
# Shortest decimal text of a double

A double is written with the fewest decimal digits that are nearer to it than to any other
double. The digits are found by trying 1, 2, ... places in exact arithmetic: on the grid of
each length the two neighbours of the number are tested against the interval of reals that round
to it. How the digits are laid out is one record of decisions, `TextForm`.
-/

set_option autoImplicit false

namespace WebhookClient.Binary64

/-! ## The digits -/

/-- A ratio of natural numbers, compared by cross multiplication. -/
structure Ratio where
  num : Nat
  den : Nat

namespace Ratio

/-- `m * 2 ^ e` as a ratio. -/
def ofScaled (m : Nat) (e : Int) : Ratio :=
  if 0 ≤ e then ⟨m * Nat.pow 2 e.toNat, 1⟩ else ⟨m, Nat.pow 2 (-e).toNat⟩

/-- `d * 10 ^ e` as a ratio. -/
def ofDecimal (d : Nat) (e : Int) : Ratio :=
  if 0 ≤ e then ⟨d * Nat.pow 10 e.toNat, 1⟩ else ⟨d, Nat.pow 10 (-e).toNat⟩

def lt (a b : Ratio) : Bool := a.num * b.den < b.num * a.den

def le (a b : Ratio) : Bool := a.num * b.den ≤ b.num * a.den

/-- The distance between two ratios. -/
def distance (a b : Ratio) : Ratio :=
  ⟨max (a.num * b.den) (b.num * a.den) - min (a.num * b.den) (b.num * a.den), a.den * b.den⟩

end Ratio

/-- Whether a ratio rounds to the positive double `m * 2 ^ q`. The interval reaches half way to
each neighbour, and the neighbour below is nearer when `m` is the least significand of its
exponent; the ends belong to an even significand. -/
def roundsTo (m : Nat) (q : Int) (r : Ratio) : Bool :=
  let low := Ratio.ofScaled (4 * m - if m = Nat.pow 2 52 ∧ minExponent < q then 1 else 2) (q - 2)
  let high := Ratio.ofScaled (4 * m + 2) (q - 2)
  if m % 2 = 0 then low.le r && r.le high else low.lt r && r.lt high

/-- The exponent `k` with `10 ^ k ≤ r < 10 ^ (k + 1)`, found from an estimate that is at most
`tries` too large. -/
def decimalExponent (r : Ratio) : Nat → Int → Int
  | 0, k => k
  | tries + 1, k => if (Ratio.ofDecimal 1 k).le r then k else decimalExponent r tries (k - 1)

/-- The better of two neighbours on a decimal grid: the one that rounds to the number, or the
nearer if both do, or the even one if they are equally near. -/
def betterNeighbour (m : Nat) (q : Int) (below : Nat) (e : Int) : Option Nat :=
  let v := Ratio.ofScaled m q
  let lo := Ratio.ofDecimal below e
  let hi := Ratio.ofDecimal (below + 1) e
  match roundsTo m q lo && 0 < below, roundsTo m q hi with
  | false, false => none
  | true, false => some below
  | false, true => some (below + 1)
  | true, true =>
    let dl := lo.distance v
    let dh := v.distance hi
    if dl.lt dh then some below
    else if dh.lt dl then some (below + 1)
    else if below % 2 = 0 then some below else some (below + 1)

/-- Tries decimal grids from `10 ^ e` downwards for a number that rounds to `m * 2 ^ q`. -/
def findShortest (m : Nat) (q : Int) : Nat → Int → Nat × Int
  | 0, e => (m, e)
  | tries + 1, e =>
    let v := Ratio.ofScaled m q
    let step := Ratio.ofDecimal 1 e
    let below := v.num * step.den / (v.den * step.num)
    match betterNeighbour m q below e with
    | some d => (d, e)
    | none => findShortest m q tries (e - 1)

/-- A whole number without its trailing zeros, and how many there were. -/
def dropZeros : Nat → Nat → Nat × Nat
  | 0, d => (d, 0)
  | tries + 1, d =>
    if d ≠ 0 ∧ d % 10 = 0 then
      let (r, n) := dropZeros tries (d / 10)
      (r, n + 1)
    else (d, 0)

/-- The shortest decimal `d * 10 ^ e` that rounds to the positive double `m * 2 ^ q`. -/
def shortest (m : Nat) (q : Int) : Nat × Int :=
  let v := Ratio.ofScaled m q
  let estimate : Int := ((m.log2 : Int) + q + 1) * 30103 / 100000 + 1
  let k := decimalExponent v 4 estimate
  let (d, e) := findShortest m q 18 k
  let (d', n) := dropZeros 20 d
  (d', e + n)

/-! ## The layout -/

/-- How the digits of a number are laid out. -/
structure TextForm where
  /-- The least decimal exponent that is written without an exponent. -/
  leastPlain : Int
  /-- The greatest decimal exponent that is written without an exponent. -/
  greatestPlain : Int
  /-- What marks an exponent that is not negative. -/
  plus : List Char

/-- Numbers from `1e-5` to below `1e+16` are written without an exponent. -/
def jsonForm : TextForm := ⟨-5, 15, ['+']⟩

/-- The text of the digits `ds`, the first of which has the decimal weight `10 ^ k`. -/
def TextForm.layout (f : TextForm) (ds : List Char) (k : Int) : List Char :=
  if f.leastPlain ≤ k ∧ k ≤ f.greatestPlain then
    if k < 0 then '0' :: '.' :: (List.replicate (-k - 1).toNat '0' ++ ds)
    else
      let whole := k.toNat + 1
      if ds.length ≤ whole then ds ++ List.replicate (whole - ds.length) '0' ++ ['.', '0']
      else ds.take whole ++ '.' :: ds.drop whole
  else
    let mantissa :=
      match ds with
      | [] => []
      | [d] => [d]
      | d :: rest => d :: '.' :: rest
    mantissa ++ 'e' :: ((if k < 0 then ['-'] else f.plus) ++ Decimal.digits k.natAbs)

/-- The text of a double: always with a point or an exponent, so that it is not taken for an
integer. -/
def toText (x : Binary64) : List Char :=
  let sign := if x.negative then ['-'] else []
  if x.significand = 0 then sign ++ ['0', '.', '0']
  else
    let (d, e) := shortest x.significand x.exponent
    let ds := Decimal.digits d
    sign ++ jsonForm.layout ds (e + ds.length - 1)

end WebhookClient.Binary64
