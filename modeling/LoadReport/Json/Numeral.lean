import LoadReport.Binary64.Arithmetic

/-! # Numerals

The parts of a number as it is written, and the values it can be read as. Reading gathers the digits
in a significand of 64 bits and scales it once by a power of ten, so the value can differ from the
nearest number in its last bit. -/

namespace LoadReport.Json

/-- A number as it is written. The digits of each part stand in the order of the text. -/
structure Numeral where
  negative : Bool
  whole : List Nat
  /-- Empty if there is no point: a point is always followed by a digit. -/
  fraction : List Nat
  exponent : Option Int
deriving DecidableEq

namespace Numeral

/-- The first significand that is too large. -/
def significandLimit : Nat := twoTo 64

/-- Appends digits to a significand until one no longer fits. Counts the digits left over. -/
def gatherWhole (significand : Nat) : List Nat → Nat × Nat
  | [] => (significand, 0)
  | digit :: rest =>
    if significand * 10 + digit < significandLimit then
      gatherWhole (significand * 10 + digit) rest
    else (significand, rest.length + 1)

/-- Appends digits to a significand until one no longer fits. Counts the digits taken. -/
def gatherFraction (significand : Nat) : List Nat → Nat × Nat
  | [] => (significand, 0)
  | digit :: rest =>
    if significand * 10 + digit < significandLimit then
      let (gathered, taken) := gatherFraction (significand * 10 + digit) rest
      (gathered, taken + 1)
    else (significand, 0)

/-- The significand and the power of ten that belongs to it. Whole digits that do not fit raise the
power, fraction digits that do not fit are dropped. -/
def scientific (numeral : Numeral) : Nat × Int :=
  let (whole, raised) := gatherWhole 0 numeral.whole
  let (significand, taken) := gatherFraction whole numeral.fraction
  (significand, (raised : Int) - taken + numeral.exponent.getD 0)

/-- The largest power of ten that is a finite number. -/
def greatestPower : Nat := 308

/-- Divides by the largest power of ten as often as told, or until nothing is left. -/
def shrink : (times : Nat) → Binary64 → Binary64
  | 0, value => value
  | times + 1, value =>
    if value.isZero then value
    else shrink times (value / Binary64.ofNat (tenTo greatestPower))

/-- Scales a significand by a power of ten; nothing if the result is beyond the finite numbers. -/
def scale? (significand : Nat) : Int → Option Binary64
  | .ofNat power =>
    if power ≤ greatestPower then
      let scaled := Binary64.ofNat significand * Binary64.ofNat (tenTo power)
      if scaled.isFinite then some scaled else none
    else if significand = 0 then some (Binary64.ofNat 0)
    else none
  | .negSucc power =>
    let times := power / greatestPower
    let shrunk := shrink times (Binary64.ofNat significand)
    some (shrunk / Binary64.ofNat (tenTo (power + 1 - times * greatestPower)))

/-- The value as a double-precision number, unless it is out of range. -/
def toBinary64? (numeral : Numeral) : Option Binary64 :=
  let (significand, power) := numeral.scientific
  (scale? significand power).map fun value => if numeral.negative then -value else value

/-- The value as a counter: only for whole numbers without a sign that fit. -/
def toCounter? (numeral : Numeral) : Option UInt64 :=
  if numeral.negative || !numeral.fraction.isEmpty || numeral.exponent.isSome then none
  else
    match gatherWhole 0 numeral.whole with
    | (value, 0) => some (UInt64.ofNat value)
    | (_, _ + 1) => none

end Numeral

end LoadReport.Json
