import Mathlib.Algebra.Group.Even
import LoadReport.Decimal.Fixed
import LoadReport.Proofs.Binary64.Value
import LoadReport.Proofs.Decimal.Digits

/-!
# Correctly rounded decimals

A decimal with a fixed number of places is the whole number of last places that is nearest to the exact
value, a half going to the even one, with its digits split at the point (`rounds_fixed`). So it is at most
half a last place away from the value, and rounding keeps the order.
-/

namespace LoadReport

/-! ## Rounding to whole numbers -/

namespace Rounding

/-- A whole number at most half a unit away, and the even one if it is half a unit away. -/
structure IsNearestEven (value : ℚ) (whole : Nat) : Prop where
  near : |value - whole| ≤ 1 / 2
  even : |value - whole| = 1 / 2 → Even whole

section

variable {denominator : Nat} (positive : 0 < denominator) (numerator : Nat)
include positive

theorem nearestEven_le_iff_div (value : Nat) :
    nearestEven numerator denominator ≤ value ↔
      (numerator : ℚ) / denominator < value + 1 / 2 ∨
        (numerator : ℚ) / denominator = value + 1 / 2 ∧ Even value := by
  have denominatorPositive : (0 : ℚ) < denominator := by exact_mod_cast positive
  have doubled : ((value : ℚ) + 1 / 2) * denominator = ((2 * value + 1) * denominator : Nat) / 2 := by
    push_cast
    ring
  rw [nearestEven_le_iff positive, div_lt_iff₀ denominatorPositive,
    div_eq_iff denominatorPositive.ne', doubled, lt_div_iff₀ (by norm_num), eq_div_iff (by norm_num),
    mul_comm (numerator : ℚ), Nat.even_iff]
  exact_mod_cast Iff.rfl

/-- What is rounded lies at most half a unit below the result, which is even if it is half a unit. -/
theorem le_nearestEven_add :
    (numerator : ℚ) / denominator ≤ nearestEven numerator denominator + 1 / 2 ∧
      ((numerator : ℚ) / denominator = nearestEven numerator denominator + 1 / 2 →
        Even (nearestEven numerator denominator)) := by
  rcases (nearestEven_le_iff_div positive numerator _).mp (Nat.le_refl _) with less | ⟨equal, even⟩
  · exact ⟨less.le, fun equal => absurd equal less.ne⟩
  · exact ⟨equal.le, fun _ => even⟩

/-- What is rounded lies at most half a unit above the result, which is even if it is half a unit. -/
theorem nearestEven_sub_le :
    (nearestEven numerator denominator : ℚ) - 1 / 2 ≤ numerator / denominator ∧
      ((numerator : ℚ) / denominator = nearestEven numerator denominator - 1 / 2 →
        Even (nearestEven numerator denominator)) := by
  cases rounded : nearestEven numerator denominator with
  | zero =>
    have nonneg : (0 : ℚ) ≤ (numerator : ℚ) / denominator :=
      div_nonneg (Nat.cast_nonneg _) (Nat.cast_nonneg _)
    push_cast
    exact ⟨by linarith, fun _ => .zero⟩
  | succ previous =>
    -- The result is the least number that is large enough, so the one in front of it is not.
    have notBelow : ¬ nearestEven numerator denominator ≤ previous := by omega
    rw [nearestEven_le_iff_div positive, not_or, not_and, not_lt] at notBelow
    obtain ⟨low, odd⟩ := notBelow
    push_cast
    refine ⟨by linarith, fun equal => ?_⟩
    exact Nat.even_add_one.mpr (odd (by linarith))

theorem isNearestEven_nearestEven :
    IsNearestEven (numerator / denominator) (nearestEven numerator denominator) := by
  obtain ⟨above, evenAbove⟩ := le_nearestEven_add positive numerator
  obtain ⟨below, evenBelow⟩ := nearestEven_sub_le positive numerator
  refine ⟨abs_le.mpr ⟨by linarith, by linarith⟩, fun half => ?_⟩
  rcases (abs_eq (by norm_num)).mp half with up | down
  · exact evenAbove (by linarith)
  · exact evenBelow (by linarith)

end

/-- Rounding keeps the order. -/
theorem IsNearestEven.mono {value other : ℚ} {whole otherWhole : Nat}
    (rounds : IsNearestEven value whole) (otherRounds : IsNearestEven other otherWhole)
    (order : value ≤ other) : whole ≤ otherWhole := by
  by_contra above
  have apart : (otherWhole : ℚ) + 1 ≤ whole := by exact_mod_cast Nat.not_le.mp above
  have low := (abs_le.mp rounds.near).1
  have high := (abs_le.mp otherRounds.near).2
  -- Both values are the middle between two neighbours, of which only one is even.
  have first : Even whole := by
    refine rounds.even ?_
    rw [abs_of_nonpos] <;> linarith
  have second : Even otherWhole := by
    refine otherRounds.even ?_
    rw [abs_of_nonneg] <;> linarith
  have neighbours : whole = otherWhole + 1 := by
    have close : (whole : ℚ) = otherWhole + 1 := by linarith
    exact_mod_cast close
  exact Nat.even_add_one.mp (neighbours ▸ first) second

end Rounding

/-! ## What a decimal text stands for -/

namespace Json.Scanner.Spelling

/-- All digits read as one whole number. -/
def coefficient (spelling : Spelling) : Nat :=
  Nat.ofDigitChars 10 (spelling.whole ++ spelling.fraction) 0

/-- The number that a spelling without an exponent stands for. -/
def toRat (spelling : Spelling) : ℚ :=
  let size : ℚ := spelling.coefficient / 10 ^ spelling.fraction.length
  if spelling.negative then -size else size

end Json.Scanner.Spelling

namespace Decimal

open Json.Scanner (Spelling areDigits_nil)
open Rounding (IsNearestEven)

/-- The spelling of a finite number that is rounded to so many places. There are no superfluous zeros in
front, the sign is that of the number, also for zeros, and all places are there. -/
structure Rounds (places : Nat) (number : Binary64) (spelling : Spelling) : Prop where
  wellFormed : spelling.WellFormed
  unscaled : spelling.exponent = none
  sign : spelling.negative = true ↔ twoTo 63 ≤ number.toBits
  length : spelling.fraction.length = places
  nearest : IsNearestEven (|number.toRat| * 10 ^ places) spelling.coefficient

namespace Rounds

variable {places : Nat} {number : Binary64} {spelling : Spelling}

theorem number_eq (rounds : Rounds places number spelling) (isFinite : number.isFinite = true) :
    number.toRat = if spelling.negative then -|number.toRat| else |number.toRat| := by
  cases number with
  | infinite => cases isFinite
  | nan => cases isFinite
  | finite negative code =>
    have same : spelling.negative = negative :=
      Bool.eq_iff_iff.mpr (rounds.sign.trans (Binary64.sign_of_bits negative code))
    rw [Binary64.abs_toRat, same, Binary64.toRat_finite]

theorem spelling_eq (rounds : Rounds places number spelling) :
    spelling.toRat = if spelling.negative then -(spelling.coefficient / 10 ^ places : ℚ)
      else spelling.coefficient / 10 ^ places := by
  rw [Spelling.toRat, rounds.length]

/-- What is written is at most half a unit of the last place away from the number. -/
theorem abs_sub_le (rounds : Rounds places number spelling) (isFinite : number.isFinite = true) :
    |spelling.toRat - number.toRat| ≤ 1 / 2 / 10 ^ places := by
  have scale : (0 : ℚ) < 10 ^ places := by positivity
  have near := rounds.nearest.near
  rw [rounds.spelling_eq, rounds.number_eq isFinite]
  generalize |number.toRat| = size at near ⊢
  have sizes : |(spelling.coefficient / 10 ^ places : ℚ) - size| ≤ 1 / 2 / 10 ^ places := by
    have common : (spelling.coefficient / 10 ^ places : ℚ) - size =
        (spelling.coefficient - size * 10 ^ places) / 10 ^ places := by
      rw [sub_div, mul_div_cancel_right₀ _ scale.ne']
    rw [common, abs_div, abs_of_pos scale, abs_sub_comm]
    exact div_le_div_of_nonneg_right near scale.le
  cases spelling.negative with
  | false => simpa using sizes
  | true =>
    rw [abs_sub_comm] at sizes
    simpa [neg_add_eq_sub] using sizes

theorem size_of_zero (rounds : Rounds places number spelling) (zero : |number.toRat| = 0) :
    (spelling.coefficient / 10 ^ places : ℚ) = 0 := by
  have near := rounds.nearest.near
  rw [zero, zero_mul, zero_sub, abs_neg, Nat.abs_cast] at near
  have none : spelling.coefficient = 0 := by
    have small : (spelling.coefficient : ℚ) < 1 := by linarith
    exact Nat.lt_one_iff.mp (by exact_mod_cast small)
  rw [none, Nat.cast_zero, zero_div]

section

variable {other : Binary64} {otherSpelling : Spelling} (rounds : Rounds places number spelling)
  (otherRounds : Rounds places other otherSpelling)
include rounds otherRounds

theorem size_mono (order : |number.toRat| ≤ |other.toRat|) :
    (spelling.coefficient / 10 ^ places : ℚ) ≤ otherSpelling.coefficient / 10 ^ places := by
  have scale : (0 : ℚ) < 10 ^ places := by positivity
  have coefficients : spelling.coefficient ≤ otherSpelling.coefficient :=
    rounds.nearest.mono otherRounds.nearest (mul_le_mul_of_nonneg_right order scale.le)
  exact div_le_div_of_nonneg_right (Nat.cast_le.mpr coefficients) scale.le

/-- Numbers that are written with the same number of places keep their order. -/
theorem mono (isFinite : number.isFinite = true) (otherFinite : other.isFinite = true)
    (order : number ≤ other) : spelling.toRat ≤ otherSpelling.toRat := by
  have values := Binary64.toRat_mono isFinite otherFinite order
  have size : (0 : ℚ) ≤ spelling.coefficient / 10 ^ places := by positivity
  have otherSize : (0 : ℚ) ≤ otherSpelling.coefficient / 10 ^ places := by positivity
  have nonneg := abs_nonneg number.toRat
  have otherNonneg := abs_nonneg other.toRat
  rw [rounds.number_eq isFinite, otherRounds.number_eq otherFinite] at values
  rw [rounds.spelling_eq, otherRounds.spelling_eq]
  cases negative : spelling.negative <;> cases otherNegative : otherSpelling.negative <;>
    simp only [negative, otherNegative, Bool.false_eq_true, if_true, if_false] at values ⊢
  · exact rounds.size_mono otherRounds values
  · -- Nothing from zero on is at most a number with a sign, unless both are zero.
    rw [rounds.size_of_zero (by linarith), otherRounds.size_of_zero (by linarith), neg_zero]
  · linarith
  · exact neg_le_neg (otherRounds.size_mono rounds (neg_le_neg_iff.mp values))

end

end Rounds

/-! ## The decimals that are written -/

/-- The digits of the rounded number, split at the point. -/
def fixedSpelling (places : Nat) (negative : Bool) (code : Nat) : Spelling where
  negative := negative
  whole := digits (scaled places code / tenTo places)
  fraction := lastDigits places (scaled places code) []
  exponent := none

theorem fixed_eq_text (places : Nat) (negative : Bool) (code : Fin Binary64.codeLimit) :
    fixed places (.finite negative code) = String.ofList (fixedSpelling places negative code).text := by
  have empty : lastDigits places (scaled places code) [] = [] ↔ places = 0 := by
    rw [← List.length_eq_zero_iff, length_lastDigits, List.length_nil, Nat.add_zero]
  rw [fixed, placed_eq, signed]
  cases negative <;>
    simp [Spelling.text, Spelling.signText, Spelling.fractionText, Spelling.exponentText,
      fixedSpelling, empty]

theorem rounds_fixed (places : Nat) (negative : Bool) (code : Fin Binary64.codeLimit) :
    Rounds places (.finite negative code) (fixedSpelling places negative code) where
  wellFormed := wellFormed_digits negative _
    (areDigits_lastDigits _ _ areDigits_nil)
  unscaled := rfl
  sign := (Binary64.sign_of_bits negative code).symm
  length := length_lastDigits places _ []
  nearest := by
    have digits := value_digits_append_lastDigits places (scaled places code)
    have exact : |(Binary64.finite negative code).toRat| * 10 ^ places =
        ((Binary64.units code * tenTo places : Nat) : ℚ) / Binary64.unitsPerOne := by
      rw [Binary64.abs_toRat, Binary64.magnitude, Nat.cast_mul, tenTo, Nat.pow_eq]
      push_cast
      ring
    rw [exact, Spelling.coefficient, fixedSpelling, digits]
    exact Rounding.isNearestEven_nearestEven Binary64.unitsPerOne_pos _

end Decimal

end LoadReport
