import LoadReport.Json.Numeral
import LoadReport.Proofs.Binary64.Finite

/-!
# Signs of numbers that are read

Among the numbers from zero on, only negative zero has a sign. Products and quotients of numbers without a
sign have none either, so a number that is read has the sign of its numeral.
-/

namespace LoadReport

/-! ## Signs -/

namespace Binary64

/-- Whether the sign is set, which is the case for one of the two zeros as well. -/
def hasSign : Binary64 → Bool
  | finite negative _ => negative
  | infinite negative => negative
  | nan => false

theorem eq_neg_zero_iff {value : Binary64} (nonneg : 0 ≤ value) :
    value = -0 ↔ value.hasSign = true := by
  have zero : (-0 : Binary64) = finite true ⟨0, by decide⟩ := by decide +kernel
  rw [zero]
  constructor
  · rintro rfl
    rfl
  · intro signed
    cases value with
    | nan => cases signed
    | infinite negative =>
      obtain rfl : negative = true := signed
      exact absurd nonneg (by decide +kernel)
    | finite negative code =>
      obtain rfl : negative = true := signed
      rw [finite.injEq]
      exact ⟨rfl, Fin.ext (code_eq_zero_of_nonneg nonneg)⟩

@[simp] theorem hasSign_ofUnits (negative : Bool) (numerator denominator : Nat) :
    (ofUnits negative numerator denominator).hasSign = negative := by
  rw [ofUnits]
  split <;> rfl

@[simp] theorem not_hasSign_ofNat (value : Nat) : (ofNat value).hasSign = false :=
  hasSign_ofUnits false _ _

theorem hasSign_neg {value : Binary64} (number : value ≠ nan) : (-value).hasSign = !value.hasSign := by
  cases value with
  | nan => exact absurd rfl number
  | finite | infinite => rfl

section

variable {left right : Binary64} (leftPlain : left.hasSign = false) (rightPlain : right.hasSign = false)
include leftPlain rightPlain

theorem not_hasSign_mul : (left * right).hasSign = false := by
  change (Binary64.mul left right).hasSign = false
  cases left <;> cases right <;> grind [hasSign, Binary64.mul, hasSign_ofUnits]

theorem not_hasSign_div : (left / right).hasSign = false := by
  change (Binary64.div left right).hasSign = false
  cases left <;> cases right <;> grind [hasSign, Binary64.div, hasSign_ofUnits]

end

end Binary64

/-! ## Numerals -/

namespace Json.Numeral

open Binary64

theorem not_hasSign_shrink (times : Nat) {value : Binary64} (plain : value.hasSign = false) :
    (shrink times value).hasSign = false := by
  induction times generalizing value with
  | zero => exact plain
  | succ times inductionHypothesis =>
    rw [shrink]
    split
    next => exact plain
    next => exact inductionHypothesis (not_hasSign_div plain (not_hasSign_ofNat _))

theorem not_hasSign_of_scale? {significand : Nat} {power : Int} {value : Binary64}
    (scaled : scale? significand power = some value) : value.hasSign = false := by
  cases power with
  | ofNat power =>
    simp only [scale?] at scaled
    split at scaled
    next =>
      obtain ⟨_, equal⟩ := Option.ite_none_right_eq_some.mp scaled
      rw [← Option.some.inj equal]
      exact not_hasSign_mul (not_hasSign_ofNat _) (not_hasSign_ofNat _)
    next =>
      obtain ⟨_, equal⟩ := Option.ite_none_right_eq_some.mp scaled
      rw [← Option.some.inj equal]
      exact not_hasSign_ofNat 0
  | negSucc power =>
    simp only [scale?, Option.some.injEq] at scaled
    rw [← scaled]
    exact not_hasSign_div (not_hasSign_shrink _ (not_hasSign_ofNat _)) (not_hasSign_ofNat _)

/-- A numeral that is read as a number from zero on is read with its sign. -/
theorem hasSign_of_toBinary64? {numeral : Numeral} {value : Binary64}
    (read : numeral.toBinary64? = some value) (nonneg : 0 ≤ value) :
    value.hasSign = numeral.negative := by
  rw [toBinary64?] at read
  obtain ⟨size, scaled, rfl⟩ := Option.map_eq_some_iff.mp read
  have plain := not_hasSign_of_scale? scaled
  cases negative : numeral.negative with
  | false => simpa [negative] using plain
  | true =>
    rw [negative, if_pos rfl] at nonneg
    -- What is not a number is not negated into one, and so would not be from zero on.
    have number : size ≠ nan := by
      rintro rfl
      have neither : ¬ (0 : Binary64) ≤ -nan := by decide +kernel
      exact neither nonneg
    rw [if_pos rfl, hasSign_neg number, plain]
    rfl

end Json.Numeral

end LoadReport
