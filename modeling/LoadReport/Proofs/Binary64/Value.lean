import Mathlib.Algebra.Order.Floor.Semifield
import Mathlib.Data.Rat.Floor
import LoadReport.Proofs.Binary64.Finite

/-!
# Exact values

A finite number is a rational one. Its sign bit, its place in the order of all numbers and what is left
of it without its fraction are those of the rational number.
-/

namespace LoadReport.Binary64

/-- The exact value of a finite number. -/
def toRat (number : Binary64) : ℚ :=
  number.inUnits / unitsPerOne

/-- The exact value of the magnitude with the given code. -/
def magnitude (code : Nat) : ℚ :=
  units code / unitsPerOne

theorem magnitude_nonneg (code : Nat) : 0 ≤ magnitude code :=
  div_nonneg (Nat.cast_nonneg _) (Nat.cast_nonneg _)

theorem magnitude_zero : magnitude 0 = 0 := by
  have nothing : units 0 = 0 := by decide
  rw [magnitude, nothing, Nat.cast_zero, zero_div]

theorem magnitude_mono {first second : Nat} (order : first ≤ second) :
    magnitude first ≤ magnitude second :=
  div_le_div_of_nonneg_right (Nat.cast_le.mpr (units_strictMono.monotone order)) (Nat.cast_nonneg _)

theorem toRat_finite (negative : Bool) (code : Fin codeLimit) :
    (finite negative code).toRat = if negative then -magnitude code else magnitude code := by
  rw [toRat, magnitude, inUnits, signedUnits]
  cases negative with
  | false => rw [if_neg Bool.false_ne_true, if_neg Bool.false_ne_true, Int.cast_natCast]
  | true => rw [if_pos rfl, if_pos rfl, Int.cast_neg, Int.cast_natCast, neg_div]

theorem abs_toRat (negative : Bool) (code : Fin codeLimit) :
    |(finite negative code).toRat| = magnitude code := by
  rw [toRat_finite]
  cases negative <;> simp [abs_of_nonneg (magnitude_nonneg code)]

theorem sign_of_bits (negative : Bool) (code : Fin codeLimit) :
    twoTo 63 ≤ (finite negative code).toBits ↔ negative = true := by
  have below : code.val < twoTo 63 := code.isLt.trans (by decide)
  cases negative <;> simp [toBits, signBit, below]

/-- Two finite numbers have the order of their values. -/
theorem toRat_mono {first second : Binary64} (firstFinite : first.isFinite = true)
    (secondFinite : second.isFinite = true) (order : first ≤ second) :
    first.toRat ≤ second.toRat := by
  match first, second, firstFinite, secondFinite with
  | finite firstSign firstCode, finite secondSign secondCode, _, _ =>
    have ranks := of_decide_eq_true (show (finite firstSign firstCode).le _ = true from order)
    have firstNonneg := magnitude_nonneg firstCode
    have secondNonneg := magnitude_nonneg secondCode
    rw [toRat_finite, toRat_finite]
    cases firstSign <;> cases secondSign <;> simp only [Bool.false_eq_true, if_true, if_false] at ranks ⊢
    · exact magnitude_mono (by exact_mod_cast ranks)
    · -- Only the zeros of both signs have the same place.
      have zeros : firstCode.val = 0 ∧ secondCode.val = 0 := by omega
      rw [zeros.1, zeros.2, magnitude_zero, neg_zero]
    · linarith
    · exact neg_le_neg (magnitude_mono (by omega))

theorem magnitude_strictMono : StrictMono magnitude := by
  intro first second order
  have one : (0 : ℚ) < unitsPerOne := Nat.cast_pos.mpr (twoTo_pos 1074)
  exact div_lt_div_of_pos_right (Nat.cast_lt.mpr (units_strictMono order)) one

theorem magnitude_pos {code : Nat} (positive : 0 < code) : 0 < magnitude code := by
  rw [← magnitude_zero]
  exact magnitude_strictMono positive

theorem toRat_lt_of_not_le {first second : Binary64} (firstFinite : first.isFinite = true)
    (secondFinite : second.isFinite = true) (order : ¬ first ≤ second) :
    second.toRat < first.toRat := by
  match first, second, firstFinite, secondFinite with
  | finite firstSign firstCode, finite secondSign secondCode, _, _ =>
    have ranks := of_decide_eq_false (Bool.eq_false_of_not_eq_true order)
    have firstNonneg := magnitude_nonneg firstCode
    have secondNonneg := magnitude_nonneg secondCode
    rw [toRat_finite, toRat_finite]
    cases firstSign <;> cases secondSign <;> simp only [Bool.false_eq_true, if_true, if_false] at ranks ⊢
    · exact magnitude_strictMono (by omega)
    · -- Zeros of both signs are not apart, so that one of the two is no zero.
      have some : 0 < firstCode.val ∨ 0 < secondCode.val := by omega
      obtain positive | positive := some
      · linarith [magnitude_pos positive]
      · linarith [magnitude_pos positive]
    · omega
    · exact neg_lt_neg (magnitude_strictMono (by omega))

theorem toRat_le_iff {first second : Binary64} (firstFinite : first.isFinite = true)
    (secondFinite : second.isFinite = true) : first.toRat ≤ second.toRat ↔ first ≤ second := by
  constructor
  · intro below
    by_contra order
    exact (toRat_lt_of_not_le firstFinite secondFinite order).not_ge below
  · exact toRat_mono firstFinite secondFinite

/-- Whole numbers of at most 53 bits are exact. -/
theorem ofNat_exact {value : Nat} (short : value ≤ 2 * binade) :
    (ofNat value).isFinite = true ∧ (ofNat value).toRat = value := by
  have digits : 2 * binade ≤ tenTo 16 := by decide
  have bound : value ≤ tenTo 308 := (short.trans digits).trans (tenTo_le (by decide))
  have parts : value = value * twoTo 0 := (Nat.mul_one value).symm
  have one : (unitsPerOne : ℚ) ≠ 0 := Nat.cast_ne_zero.mpr (twoTo_pos 1074).ne'
  rw [ofNat_eq_finite bound, toRat, inUnits_of_positive, Int.cast_natCast,
    units_wholeCode_of_short parts short, Nat.cast_mul, mul_div_cancel_right₀ _ one]
  exact ⟨rfl, rfl⟩

section

variable {value : Nat} (short : value ≤ 2 * binade) {number : Binary64}
  (isFinite : number.isFinite = true)
include short isFinite

theorem ofNat_le_iff : ofNat value ≤ number ↔ value ≤ number.toRat := by
  obtain ⟨whole, same⟩ := ofNat_exact short
  rw [← toRat_le_iff whole isFinite, same]

theorem le_ofNat_iff : number ≤ ofNat value ↔ number.toRat ≤ value := by
  obtain ⟨whole, same⟩ := ofNat_exact short
  rw [← toRat_le_iff isFinite whole, same]

end

theorem toRat_nonneg {number : Binary64} (nonneg : 0 ≤ number) : 0 ≤ number.toRat := by
  have units : (0 : ℚ) ≤ number.inUnits := by exact_mod_cast inUnits_nonneg nonneg
  exact div_nonneg units (Nat.cast_nonneg _)

theorem floor_toRat (number : Binary64) : ⌊number.toRat⌋₊ = (number.inUnits / unitsPerOne).toNat := by
  rw [toRat, ← Int.floor_toNat, Rat.floor_intCast_div_natCast]

/-- Without its fraction, a number from zero on is the whole part of its value, up to the largest integer
that can be held. -/
theorem truncate_of_nonneg {number : Binary64} (isFinite : number.isFinite = true)
    (nonneg : 0 ≤ number) : number.truncate = (min ⌊number.toRat⌋₊ (twoTo 63 - 1) : Nat) := by
  cases number with
  | infinite => cases isFinite
  | nan => cases isFinite
  | finite negative code =>
    rw [floor_toRat, truncate, heldInteger]
    cases negative with
    | false => rfl
    | true =>
      -- With the sign bit set, only zero is from zero on.
      have zero : (0 : Int) ≤ -units code := inUnits_nonneg nonneg
      have none : units code = 0 := by omega
      simp only [inUnits, signedUnits, none, Nat.zero_div, if_true, Nat.cast_zero, neg_zero,
        Int.zero_ediv, Int.toNat_zero, Nat.zero_min]

end LoadReport.Binary64
