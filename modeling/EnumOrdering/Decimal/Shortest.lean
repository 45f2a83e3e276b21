import EnumOrdering.Decimal.Binary64
import EnumOrdering.Decimal.Integer

/-!
# The shortest decimal of a double

Every finite double is the number nearest to some interval of reals. Among the
decimals in that interval `shortest` takes one of the fewest digits, and of
those the nearest to the number itself; of two equally near ones it takes the
even one. The digits are found grid by grid, with one more digit on each, and
only the two neighbours of the number on a grid need a look.

A `Layout` says how such a decimal is written out: within which decimal
exponents the point stands among the digits, and an exponent is written
outside.
-/

namespace EnumOrdering.Decimal

/-- The decimal `coefficient * 10 ^ exponent`. -/
structure Digits where
  coefficient : Nat
  exponent : Int
deriving Repr, DecidableEq

/-- The greatest `e` with `10 ^ e ≤ num / den`, for a positive quotient. -/
def floorLog10 (num den : Nat) : Int :=
  if den ≤ num then ((natDigits (num / den)).length : Int) - 1
  else
    let d := (natDigits (den / num)).length
    if den = num * Nat.pow 10 (d - 1) then 1 - (d : Int) else -(d : Int)

/-- The interval of reals that round to a positive magnitude, in quarters of
its last place, its ends included where the significand is even. -/
structure Interval where
  low : Nat
  high : Nat
  closed : Bool

/-- Below a power of two the numbers lie twice as close. -/
def interval (x : Magnitude) : Interval :=
  let m := x.significand
  { low := if m = 1 <<< 52 ∧ x.shift ≠ 0 then 4 * m - 1 else 4 * m - 2
    high := 4 * m + 2
    closed := m % 2 = 0 }

/-- The decimal nearest to `x` on the grid of step `10 ^ step`, if it rounds to
`x`. Everything is compared as naturals, multiplied by `4 * 10 ^ (-step)` where
the step is less than one. -/
def onGrid? (x : Magnitude) (step : Int) : Option Digits :=
  let scaleUp := Nat.pow 10 (-step).toNat
  let cell := Nat.pow 10 step.toNat * (4 * Magnitude.unit)
  let quarters (k : Nat) := (k <<< x.shift) * scaleUp
  let within (c : Nat) : Bool :=
    let i := interval x
    if i.closed then quarters i.low ≤ c * cell && c * cell ≤ quarters i.high
    else quarters i.low < c * cell && c * cell < quarters i.high
  let value := quarters (4 * x.significand)
  let below := value / cell
  let above := below + 1
  let distBelow := value - below * cell
  let distAbove := above * cell - value
  let preferBelow := distBelow < distAbove || (distBelow = distAbove && below % 2 = 0)
  if within below && (preferBelow || !within above) then some ⟨below, step⟩
  else if within above then some ⟨above, step⟩
  else none

/-- The first grid with a hit, the steps shrinking tenfold for `fuel` turns. -/
def search (x : Magnitude) : Nat → Int → Digits
  | 0, step => ⟨0, step⟩
  | fuel + 1, step =>
    match onGrid? x step with
    | some d => d
    | none => search x fuel (step - 1)

/-- The shortest decimal that rounds to a positive magnitude. Seventeen digits
always suffice. -/
def shortest (x : Magnitude) : Digits :=
  search x 18 (floorLog10 x.units Magnitude.unit)

/-- How a decimal is written: with the point among the digits while the
exponent of the first digit is at least `lowest` and below `highest`, and
otherwise with an exponent, its sign always shown. -/
structure Layout where
  lowest : Int
  highest : Int

/-- Drops the zeros at the end of a list of digits. -/
def dropTrailingZeros (ds : List Char) : List Char :=
  (ds.reverse.dropWhile (· == '0')).reverse

/-- Digits with a point after the first `whole` of them; a side without digits
shows one zero. -/
def withPoint (ds : List Char) (whole : Int) : List Char :=
  if whole ≤ 0 then
    '0' :: '.' :: (List.replicate (-whole).toNat '0' ++ ds)
  else
    let k := whole.toNat
    if ds.length ≤ k then ds ++ List.replicate (k - ds.length) '0' ++ ['.', '0']
    else ds.take k ++ '.' :: ds.drop k

/-- Digits with a point after the first and the exponent `e`. -/
def withExponent (ds : List Char) (e : Int) : List Char :=
  let lead :=
    match ds with
    | [] => ['0']
    | [d] => [d]
    | d :: rest => d :: '.' :: rest
  lead ++ 'e' :: (if e < 0 then '-' else '+') :: natDigits e.natAbs

/-- A decimal written out under a layout. -/
def Digits.write (layout : Layout) (d : Digits) : List Char :=
  let all := natDigits d.coefficient
  let ds := dropTrailingZeros all
  let e := d.exponent + all.length - 1
  if layout.lowest ≤ e ∧ e < layout.highest then withPoint ds (e + 1)
  else withExponent ds e

/-- The text of a finite double under a layout. -/
def Binary64.text (layout : Layout) (x : Binary64) : String :=
  let sign := if x.negative then ['-'] else []
  let body := if x.magnitude.isZero then ['0', '.', '0'] else (shortest x.magnitude).write layout
  String.ofList (sign ++ body)

end EnumOrdering.Decimal
