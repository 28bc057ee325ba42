/-! # Rounding quotients to whole numbers

The one rounding rule of the library: to the nearest whole number, a half to the even neighbour.
Double-precision results and fixed-place decimals both come from it. -/

namespace LoadReport.Rounding

/-- The whole number nearest to `numerator / denominator`; of two equally near ones, the even
one. -/
def nearestEven (numerator denominator : Nat) : Nat :=
  let quotient := numerator / denominator
  let remainder := numerator % denominator
  if 2 * remainder < denominator then quotient
  else if 2 * remainder = denominator then quotient + quotient % 2
  else quotient + 1

/-- Rounding never leaves the two whole numbers around the quotient. -/
theorem nearestEven_bounds (numerator denominator : Nat) :
    numerator / denominator ≤ nearestEven numerator denominator ∧
      nearestEven numerator denominator ≤ numerator / denominator + 1 := by
  simp only [nearestEven]
  split
  · omega
  · split <;> omega

end LoadReport.Rounding
