import LoadReport.Binary64.Basic

/-! # The shortest decimal of a double-precision number

Every decimal that lies in the rounding interval of a number reads back as that number. The
shortest one is the multiple of the coarsest power of ten that has a multiple in the interval.
All of this takes place on the grid of `10 ^ -1076`, on which every magnitude, every midpoint of
two neighbouring magnitudes and every candidate is a whole number. -/

namespace LoadReport.Decimal

/-- Which of two equally near candidates is taken. -/
inductive Tie where
  | upper
  | even
deriving DecidableEq

/-- A magnitude with the interval of all values that round to it. -/
structure Interval where
  low : Nat
  value : Nat
  high : Nat
  /-- Whether the two ends round to the magnitude as well. -/
  closed : Bool

namespace Interval

/-- Grid points of `10 ^ -1076` in a quarter of a unit. -/
def gridScale : Nat := Nat.pow 5 1076

/-- The magnitude with the given code. The interval reaches half way to the neighbours; below a
power of two the lower neighbour is only half as far away as the upper one. Halves round to even
codes, so the ends belong to these. -/
def ofCode (code : Nat) : Interval :=
  let value := 4 * Binary64.units code
  let spacing := Binary64.spacing code
  let narrow := code % Binary64.binade = 0 ∧ 2 * Binary64.binade ≤ code
  let below := if narrow then spacing else 2 * spacing
  { low := (value - below) * gridScale
    value := value * gridScale
    high := (value + 2 * spacing) * gridScale
    closed := code % 2 = 0 }

/-- Whether a grid point rounds to the magnitude. -/
def contains (interval : Interval) (point : Nat) : Bool :=
  if interval.closed then interval.low ≤ point && point ≤ interval.high
  else interval.low < point && point < interval.high

/-- The multiple of `step` in the interval that is nearest to the magnitude, as a factor. Only the
two multiples around the magnitude need to be looked at. -/
def multiple? (interval : Interval) (tie : Tie) (step : Nat) : Option Nat :=
  let lower := interval.value / step
  let upper := lower + 1
  match interval.contains (lower * step), interval.contains (upper * step) with
  | false, false => none
  | true, false => some lower
  | false, true => some upper
  | true, true =>
    let down := interval.value - lower * step
    let up := upper * step - interval.value
    if down < up then some lower
    else if up < down then some upper
    else match tie with
      | .upper => some upper
      | .even => some (lower + lower % 2)

/-- The coarsest power of ten up to `10 ^ place` with a multiple in the interval: the factor and the
place. The grid itself always has one. -/
def coarsest (interval : Interval) (tie : Tie) : (place : Nat) → Nat × Nat
  | 0 => (interval.value, 0)
  | place + 1 =>
    match interval.multiple? tie (tenTo (place + 1)) with
    | some factor => (factor, place + 1)
    | none => coarsest interval tie place

end Interval

/-- A decimal `coefficient * 10 ^ exponent`. -/
structure Scientific where
  coefficient : Nat
  exponent : Int
deriving DecidableEq

/-- The decimal that a factor and the place of a power of ten on the grid stand for. -/
def Scientific.ofGrid (multiple : Nat × Nat) : Scientific where
  coefficient := multiple.1
  exponent := multiple.2 - 1076

/-- The shortest decimal of the magnitude with the given code. No power of ten above
`10 ^ (log2 high / 3)` is as small as the upper end, so the search starts there. -/
def shortest (tie : Tie) (code : Nat) : Scientific :=
  let interval := Interval.ofCode code
  Scientific.ofGrid (interval.coarsest tie (Nat.log2 interval.high / 3))

end LoadReport.Decimal
