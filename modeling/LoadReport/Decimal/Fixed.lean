import LoadReport.Binary64.Basic
import LoadReport.Decimal.Digits

/-! # Decimals with a fixed number of places

The exact binary value is rounded once to the required number of places, a half to the even digit.
The sign is written whenever the sign bit is set, also where all digits are zero. -/

namespace LoadReport.Decimal

/-- The magnitude with the given code in units of the last place, rounded. -/
def scaled (places code : Nat) : Nat :=
  Rounding.nearestEven (Binary64.units code * tenTo places) Binary64.unitsPerOne

/-- The digits of `value / tenTo places` with exactly `places` of them after the point. -/
def placed (places value : Nat) : List Char :=
  digits (value / tenTo places) ++
    if places = 0 then []
    else '.' :: lastDigitsHalving (Nat.log2 places) places (value % tenTo places) []

/-- The places are the last digits of the value. -/
theorem placed_eq (places value : Nat) :
    placed places value =
      digits (value / tenTo places) ++
        if places = 0 then [] else '.' :: lastDigits places value [] := by
  simp only [placed, lastDigitsHalving_eq, lastDigits_mod]

/-- The decimal of a number rounded to the given number of places. -/
def fixed (places : Nat) : Binary64 → String
  | .finite negative code =>
    signed negative (String.ofList (placed places (scaled places code.val)))
  | .infinite negative => signed negative "inf"
  | .nan => "NaN"

end LoadReport.Decimal
