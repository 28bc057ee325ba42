import LoadReport.Binary64.Arithmetic
import LoadReport.Proofs.Binary64.Precision

/-!
# Sums that stay finite

A sum of finite numbers is rounded to infinity exactly if it is too large, which the exact sum decides.
Between the largest finite magnitude and the one that would follow it, the upper half overflows, and so
does the middle, since the largest magnitude has an odd code.
-/

namespace LoadReport.Binary64

/-- The value of a finite number, in units. -/
def inUnits : Binary64 → Int
  | finite negative code => signedUnits negative code.val
  | infinite _ => 0
  | nan => 0

/-- This many units lie in the middle between the largest finite magnitude and the one that would
follow it. -/
def overflowUnits : Nat :=
  (twoTo 54 - 1) * twoTo 2044

theorem middle_last : middle (codeLimit - 1) = overflowUnits := by
  have doubled : units (codeLimit - 1) + units (codeLimit - 1 + 1) = 2 * overflowUnits := by
    decide +kernel
  have cast : (units (codeLimit - 1) + units (codeLimit - 1 + 1) : ℚ) = 2 * overflowUnits := by
    exact_mod_cast doubled
  rw [middle, cast]
  ring

theorem nearestCode_lt_codeLimit_iff (numerator : Nat) :
    nearestCode numerator 1 < codeLimit ↔ numerator < overflowUnits := by
  have positive : 0 < codeLimit := by decide
  have odd : ¬ (codeLimit - 1) % 2 = 0 := by decide +kernel
  have before : nearestCode numerator 1 < codeLimit ↔ nearestCode numerator 1 ≤ codeLimit - 1 :=
    (Nat.le_sub_one_iff_lt positive).symm
  have whole : (numerator : ℚ) / (1 : Nat) = numerator := by
    rw [Nat.cast_one, div_one]
  rw [before, nearestCode_le_iff Nat.one_pos, middle_last, whole]
  constructor
  · intro low
    obtain less | ⟨_, even⟩ := low
    · exact_mod_cast less
    · exact absurd even odd
  · intro less
    exact .inl (by exact_mod_cast less)

theorem ofUnits_eq_infinite {negative : Bool} {numerator denominator : Nat}
    (outside : ¬ nearestCode numerator denominator < codeLimit) :
    ofUnits negative numerator denominator = infinite negative :=
  dif_neg outside

theorem ofUnits_isFinite_iff (negative : Bool) (numerator : Nat) :
    (ofUnits negative numerator 1).isFinite = true ↔ numerator < overflowUnits := by
  rw [← nearestCode_lt_codeLimit_iff]
  by_cases inRange : nearestCode numerator 1 < codeLimit
  · rw [ofUnits_eq_finite inRange]
    exact iff_of_true rfl inRange
  · rw [ofUnits_eq_infinite inRange]
    exact iff_of_false Bool.false_ne_true inRange

/-- A sum of finite numbers is the exact sum, rounded. -/
theorem add_eq_ofUnits {first second : Binary64} (firstFinite : first.isFinite = true)
    (secondFinite : second.isFinite = true) :
    ∃ negative, first + second = ofUnits negative (first.inUnits + second.inUnits).natAbs 1 ∧
      (0 < first.inUnits + second.inUnits → negative = false) := by
  match first, second, firstFinite, secondFinite with
  | finite firstSign firstCode, finite secondSign secondCode, _, _ =>
    change ∃ negative, Binary64.add _ _ = _ ∧ _
    by_cases zero : signedUnits firstSign firstCode.val + signedUnits secondSign secondCode.val = 0
    · refine ⟨firstSign && secondSign, ?_, ?_⟩
      · simp [Binary64.add, inUnits, zero]
      · simp [inUnits, zero]
    · refine ⟨_, by simp only [Binary64.add, inUnits, if_neg zero]; rfl, ?_⟩
      intro positive
      exact decide_eq_false (not_lt.mpr positive.le)

theorem add_isFinite_iff {first second : Binary64} (firstFinite : first.isFinite = true)
    (secondFinite : second.isFinite = true) :
    (first + second).isFinite = true ↔
      (first.inUnits + second.inUnits).natAbs < overflowUnits := by
  obtain ⟨negative, sum, _⟩ := add_eq_ofUnits firstFinite secondFinite
  rw [sum, ofUnits_isFinite_iff]

theorem inUnits_of_positive (code : Fin codeLimit) :
    inUnits (finite false code) = units code.val :=
  rfl

/-- Among the numbers with a sign, only zero is from zero on. -/
theorem code_eq_zero_of_nonneg {code : Fin codeLimit} (nonneg : 0 ≤ finite true code) :
    code.val = 0 := by
  have zero : (0 : Binary64).rank? = some 0 := by decide +kernel
  have order : (0 : Binary64).le (finite true code) = true := nonneg
  rw [le, zero] at order
  have below := of_decide_eq_true order
  simp only [if_true] at below
  omega

theorem inUnits_nonneg {number : Binary64} (nonneg : 0 ≤ number) : 0 ≤ number.inUnits := by
  cases number with
  | finite negative code =>
    cases negative with
    | false =>
      rw [inUnits_of_positive]
      exact Int.natCast_nonneg _
    | true =>
      have nothing : units 0 = 0 := by decide
      simp [inUnits, signedUnits, code_eq_zero_of_nonneg nonneg, nothing]
  | infinite negative => exact Int.le_refl 0
  | nan => exact Int.le_refl 0

theorem finite_or_infinite_of_pos {number : Binary64} (positive : 0 < number) :
    number.isFinite = true ∨ number = infinite false := by
  cases number with
  | finite negative code => exact .inl rfl
  | infinite negative =>
    right
    cases negative with
    | false => rfl
    | true =>
      have below : ¬ (0 : Binary64) < infinite true := by decide +kernel
      exact absurd positive below
  | nan =>
    have below : ¬ (0 : Binary64) < nan := by decide +kernel
    exact absurd positive below

section

variable {first second : Binary64} (firstFinite : first.isFinite = true)
  (secondFinite : second.isFinite = true) (firstNonneg : 0 ≤ first) (secondNonneg : 0 ≤ second)
include firstFinite secondFinite firstNonneg secondNonneg

theorem add_isFinite_iff_of_nonneg :
    (first + second).isFinite = true ↔ first.inUnits + second.inUnits < overflowUnits := by
  have firstUnits := inUnits_nonneg firstNonneg
  have secondUnits := inUnits_nonneg secondNonneg
  rw [add_isFinite_iff firstFinite secondFinite]
  omega

/-- A sum that is not negative can only overflow upwards. -/
theorem add_finite_or_infinite :
    (first + second).isFinite = true ∨ first + second = infinite false := by
  by_cases finite : (first + second).isFinite = true
  · exact .inl finite
  · right
    have firstUnits := inUnits_nonneg firstNonneg
    have secondUnits := inUnits_nonneg secondNonneg
    have overflow := mt (add_isFinite_iff firstFinite secondFinite).mpr finite
    have positive : 0 < overflowUnits := Nat.mul_pos (by decide) (twoTo_pos 2044)
    obtain ⟨negative, sum, sign⟩ := add_eq_ofUnits firstFinite secondFinite
    obtain rfl := sign (by omega)
    rw [sum, ofUnits_eq_infinite (mt (nearestCode_lt_codeLimit_iff _).mp overflow)]

end

/-! ## Whole numbers with a shift -/

theorem ofNat_isFinite {value : Nat} (bound : value ≤ twoTo 64) :
    (ofNat value).isFinite = true ∧ (ofNat value).inUnits.natAbs ≤ twoTo 64 * unitsPerOne := by
  have digits : twoTo 64 ≤ tenTo 20 := by decide
  have small : twoTo 64 ≤ tenTo 308 := digits.trans (tenTo_le (by decide))
  have last : units (wholeCode (twoTo 64)) = twoTo 64 * unitsPerOne :=
    units_wholeCode_of_short (Nat.one_mul _).symm (by decide)
  have below := units_strictMono.monotone (wholeCode_mono bound)
  rw [last] at below
  rw [ofNat_eq_finite (bound.trans small), inUnits_of_positive, Int.natAbs_natCast]
  exact ⟨rfl, below⟩

/-- A whole number that counts something stays finite if it is shifted by at most one. -/
theorem ofNat_add_isFinite {value : Nat} (bound : value ≤ twoTo 64) {shift : Binary64}
    (finite : shift.isFinite = true) (small : shift.inUnits.natAbs ≤ unitsPerOne) :
    (ofNat value + shift).isFinite = true := by
  obtain ⟨whole, size⟩ := ofNat_isFinite bound
  have room : twoTo 64 * unitsPerOne + unitsPerOne < overflowUnits := by decide +kernel
  rw [add_isFinite_iff whole finite]
  calc ((ofNat value).inUnits + shift.inUnits).natAbs
      ≤ (ofNat value).inUnits.natAbs + shift.inUnits.natAbs := Int.natAbs_add_le _ _
    _ ≤ twoTo 64 * unitsPerOne + unitsPerOne := Nat.add_le_add size small
    _ < overflowUnits := room

end LoadReport.Binary64
