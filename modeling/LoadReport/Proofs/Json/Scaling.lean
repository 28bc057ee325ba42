import LoadReport.Json.Numeral
import LoadReport.Proofs.Decimal.Shortest

/-!
# What scaling a significand gives

Scaling rounds the significand, the power of ten and their product or quotient, and below the smallest
power of ten that is a normal number one quotient more. The roundings of a decimal that stands for a
magnitude add up to two at most, so the code that results is at most two away from that of the
magnitude. Of a short significand and a small power of ten only the last rounding is left, and the
result is the magnitude itself.
-/

namespace LoadReport.Json.Numeral

open Binary64 (Within units binade rounding roundingOf nearestCode wholeCode unitsPerOne codeLimit
  CodesNear)
open Decimal (inUnits)

/-- Scaling rounds this quotient last. -/
structure ScalesTo (significand : Nat) (power : Int) (numerator denominator : Nat) : Prop where
  positive : 0 < denominator
  scaled : ∀ inRange : nearestCode numerator denominator < codeLimit,
    scale? significand power = some (.finite false ⟨nearestCode numerator denominator, inRange⟩)

/-- A significand and a power of ten that are numbers themselves. -/
def IsShort (significand : Nat) (power : Int) : Prop :=
  significand ≤ twoTo 53 ∧ -22 ≤ power ∧ power ≤ 22

theorem units_wholeCode_significand {significand : Nat} (bound : significand ≤ 2 * binade) :
    units (wholeCode significand) = significand * unitsPerOne := by
  have parts : significand = significand * twoTo 0 := (Nat.mul_one significand).symm
  exact Binary64.units_wholeCode_of_short parts bound

theorem units_wholeCode_tenTo {power : Nat} (bound : power ≤ 22) :
    units (wholeCode (tenTo power)) = tenTo power * unitsPerOne := by
  have parts : tenTo power = 5 ^ power * twoTo power := Nat.mul_pow 5 2 power
  have largest : 5 ^ 22 ≤ 2 * binade := by decide
  exact Binary64.units_wholeCode_of_short parts
    ((Nat.pow_le_pow_right (by decide) bound).trans largest)

/-! ## Powers of ten that are numbers -/

theorem scalesTo_product {significand power : Nat} (bound : significand ≤ tenTo 308)
    (inRange : power ≤ greatestPower) :
    ScalesTo significand power (units (wholeCode significand) * units (wholeCode (tenTo power)))
      unitsPerOne where
  positive := Binary64.unitsPerOne_pos
  scaled := by
    intro resultInRange
    change scale? significand (.ofNat power) = _
    simp only [scale?]
    rw [if_pos inRange, Binary64.ofNat_eq_finite bound,
      Binary64.ofNat_eq_finite (tenTo_le inRange), Binary64.mul_eq_finite _ _ resultInRange,
      Binary64.isFinite, if_pos rfl]

theorem scalesTo_quotient {significand power : Nat} (bound : significand ≤ tenTo 308)
    (inRange : power + 1 ≤ greatestPower) :
    ScalesTo significand (-(power + 1 : Nat)) (units (wholeCode significand) * unitsPerOne)
      (units (wholeCode (tenTo (power + 1)))) where
  positive := Binary64.units_wholeCode_pos (tenTo_pos _)
  scaled := by
    intro resultInRange
    have notZero := Binary64.units_wholeCode_pos (tenTo_pos (power + 1))
    change scale? significand (.negSucc power) = _
    simp only [scale?]
    rw [Nat.div_eq_of_lt inRange, Nat.zero_mul, Nat.sub_zero, shrink,
      Binary64.ofNat_eq_finite bound, Binary64.ofNat_eq_finite (tenTo_le inRange),
      Binary64.div_eq_finite _ _ notZero resultInRange]

/-! ## Smaller powers of ten -/

/-- The greatest power of ten as it is rounded, in units. -/
def greatestUnits : Nat :=
  units (wholeCode (tenTo greatestPower))

theorem unitsPerOne_le_greatestUnits : unitsPerOne ≤ greatestUnits := by
  decide +kernel

theorem greatestUnits_pos : 0 < greatestUnits :=
  Nat.lt_of_lt_of_le Binary64.unitsPerOne_pos unitsPerOne_le_greatestUnits

/-- The code of the significand divided by the greatest power of ten. -/
def shrunkCode (significand : Nat) : Nat :=
  nearestCode (units (wholeCode significand) * unitsPerOne) greatestUnits

theorem shrunkCode_lt {significand : Nat} (bound : significand ≤ tenTo 308) :
    shrunkCode significand < codeLimit := by
  have positive : (0 : ℚ) < greatestUnits := by exact_mod_cast greatestUnits_pos
  refine Nat.lt_of_le_of_lt ?_ (Binary64.wholeCode_lt bound)
  refine Binary64.nearestCode_le_of_le_units greatestUnits_pos ?_
  rw [div_le_iff₀ positive]
  exact_mod_cast Nat.mul_le_mul_left _ unitsPerOne_le_greatestUnits

theorem shrink_one {significand : Nat} (positive : 0 < significand)
    (bound : significand ≤ tenTo 308) :
    shrink 1 (Binary64.ofNat significand) =
      .finite false ⟨shrunkCode significand, shrunkCode_lt bound⟩ := by
  have notZero : wholeCode significand ≠ 0 := by
    intro zero
    have unitsPositive := Binary64.units_wholeCode_pos positive
    rw [zero] at unitsPositive
    exact absurd unitsPositive (by decide)
  have notZero : ¬Binary64.isZero (.finite false ⟨_, Binary64.wholeCode_lt bound⟩) = true := by
    simpa [Binary64.isZero] using notZero
  have greatestBound : tenTo greatestPower ≤ tenTo 308 := tenTo_le (Nat.le_refl 308)
  rw [Binary64.ofNat_eq_finite bound, shrink, if_neg notZero, shrink,
    Binary64.ofNat_eq_finite greatestBound,
    Binary64.div_eq_finite _ _ greatestUnits_pos (shrunkCode_lt bound)]
  rfl

theorem scalesTo_shrunk {significand power : Nat} (positive : 0 < significand)
    (bound : significand ≤ tenTo 308) (least : greatestPower ≤ power)
    (greatest : power < 2 * greatestPower) :
    ScalesTo significand (-(power + 1 : Nat)) (units (shrunkCode significand) * unitsPerOne)
      (units (wholeCode (tenTo (power + 1 - greatestPower)))) where
  positive := Binary64.units_wholeCode_pos (tenTo_pos _)
  scaled := by
    intro resultInRange
    have once : power / greatestPower = 1 :=
      Nat.div_eq_of_lt_le (by omega) (by omega)
    have inRange : power + 1 - greatestPower ≤ greatestPower := by omega
    have notZero := Binary64.units_wholeCode_pos (tenTo_pos (power + 1 - greatestPower))
    change scale? significand (.negSucc power) = _
    simp only [scale?]
    rw [once, Nat.one_mul, shrink_one positive bound, Binary64.ofNat_eq_finite (tenTo_le inRange),
      Binary64.div_eq_finite _ _ notZero resultInRange]

/-! ## How exact the quotients are -/

theorem product_within {significand power : Nat} (positive : 0 < significand) :
    Within (rounding * rounding)
      ((units (wholeCode significand) * units (wholeCode (tenTo power)) : Nat) / unitsPerOne)
      (inUnits significand power) := by
  have unitsPositive : (0 : ℚ) < unitsPerOne := by exact_mod_cast Binary64.unitsPerOne_pos
  have close := ((Binary64.wholeCode_within positive).mul
    (Binary64.wholeCode_within (tenTo_pos power))).div (Within.refl unitsPositive)
  have exact : (significand * unitsPerOne * (tenTo power * unitsPerOne) / unitsPerOne : ℚ) =
      inUnits significand power := by
    rw [Decimal.inUnits_nonneg_power]
    push_cast
    field_simp
  rw [mul_one, exact] at close
  exact_mod_cast close

theorem quotient_within {significand power : Nat} (positive : 0 < significand) :
    Within (rounding * rounding)
      ((units (wholeCode significand) * unitsPerOne : Nat) / units (wholeCode (tenTo power)))
      (inUnits significand (-power)) := by
  have unitsPositive : (0 : ℚ) < unitsPerOne := by exact_mod_cast Binary64.unitsPerOne_pos
  have powerPositive : (0 : ℚ) < tenTo power := by exact_mod_cast tenTo_pos power
  have close := ((Binary64.wholeCode_within positive).mul (Within.refl unitsPositive)).div
    (Binary64.wholeCode_within (tenTo_pos power))
  have exact : (significand * unitsPerOne * unitsPerOne / (tenTo power * unitsPerOne) : ℚ) =
      inUnits significand (-power) := by
    rw [Decimal.inUnits_negative_power]
    push_cast
    field_simp
  rw [mul_one, exact] at close
  exact_mod_cast close

/-! ## Three roundings

Below the smallest normal power of ten there is one rounding more, and two are the limit. But the
greatest power of ten is almost exact; and a significand that is just above a power of two, where
rounding it weighs most, leads just below one when it is divided by the greatest power of ten, where
rounding weighs least. -/

theorem within_roundingOf_of_le {steps left right : Nat} (stepsPositive : 0 < steps)
    (leftPositive : 0 < left) (rightPositive : 0 < right)
    (below : 2 * steps * left ≤ (2 * steps + 1) * right)
    (above : 2 * steps * right ≤ (2 * steps + 1) * left) :
    Within (roundingOf steps) left right := by
  have positive : (0 : ℚ) < 2 * steps := by exact_mod_cast Nat.mul_pos Nat.two_pos stepsPositive
  have expand : ∀ size : ℚ, roundingOf steps * size = (2 * steps + 1) * size / (2 * steps) := by
    intro size
    rw [roundingOf]
    field_simp
  exact {
    leftPositive := by exact_mod_cast leftPositive
    rightPositive := by exact_mod_cast rightPositive
    below := by
      rw [expand, le_div_iff₀ positive, mul_comm]
      exact_mod_cast below
    above := by
      rw [expand, le_div_iff₀ positive, mul_comm]
      exact_mod_cast above }

theorem greatestUnits_within :
    Within (roundingOf 45000000000000000) greatestUnits (tenTo greatestPower * unitsPerOne : Nat) :=
  within_roundingOf_of_le (by decide) greatestUnits_pos
    (Nat.mul_pos (tenTo_pos _) Binary64.unitsPerOne_pos) (by decide +kernel) (by decide +kernel)

/-- The quotient of a significand and the greatest power of ten before it is rounded. -/
def shrunkValue (significand : Nat) : ℚ :=
  (units (wholeCode significand) * unitsPerOne : Nat) / greatestUnits

theorem shrunkCode_within_of {significand : Nat} {first last : ℚ}
    (significandClose : Within first (units (wholeCode significand)) (significand * unitsPerOne))
    (resultClose : Within last (units (shrunkCode significand)) (shrunkValue significand)) :
    Within (last * (first * roundingOf 45000000000000000)) (units (shrunkCode significand))
      (significand * unitsPerOne / tenTo greatestPower) := by
  have unitsPositive : (0 : ℚ) < unitsPerOne := by exact_mod_cast Binary64.unitsPerOne_pos
  have powerPositive : (0 : ℚ) < tenTo greatestPower := by exact_mod_cast tenTo_pos greatestPower
  have quotientClose := (significandClose.mul (Within.refl unitsPositive)).div greatestUnits_within
  have exact : (significand * unitsPerOne * unitsPerOne /
      (tenTo greatestPower * unitsPerOne : Nat) : ℚ) =
        significand * unitsPerOne / tenTo greatestPower := by
    push_cast
    field_simp
  rw [mul_one, exact] at quotientClose
  refine resultClose.trans ?_
  rw [shrunkValue]
  exact_mod_cast quotientClose

theorem cast_binade : (binade : ℚ) = 4503599627370496 := by
  norm_num [binade, twoTo]

/-- One has a lucky quotient. -/
theorem shrunkCode_one_within :
    Within rounding (units (shrunkCode 1)) (unitsPerOne / tenTo greatestPower) := by
  have powerPositive : (0 : ℚ) < tenTo greatestPower := by exact_mod_cast tenTo_pos greatestPower
  have close : Within rounding (units (shrunkCode 1) * tenTo greatestPower : Nat) unitsPerOne :=
    within_roundingOf_of_le Binary64.binade_pos (by decide +kernel) Binary64.unitsPerOne_pos
      (by decide +kernel) (by decide +kernel)
  have close := close.div (Within.refl powerPositive)
  rwa [Nat.cast_mul, mul_div_assoc, div_self powerPositive.ne', mul_one, mul_one] at close

theorem shrunkCode_within_of_exact {significand : Nat} (several : 2 ≤ significand)
    (bound : significand ≤ 2 * binade) :
    Within (rounding * rounding) (units (shrunkCode significand))
      (significand * unitsPerOne / tenTo greatestPower) := by
  have unitsPositive : (0 : ℚ) < unitsPerOne := by exact_mod_cast Binary64.unitsPerOne_pos
  have significandPositive : (0 : ℚ) < significand := by
    exact_mod_cast Nat.lt_of_lt_of_le Nat.two_pos several
  have exact := units_wholeCode_significand bound
  have significandClose : Within 1 (units (wholeCode significand)) (significand * unitsPerOne) := by
    rw [exact, Nat.cast_mul]
    exact Within.refl (mul_pos significandPositive unitsPositive)
  have large : ((4000000000000000 : Nat) : ℚ) ≤ shrunkValue significand := by
    have least : 4000000000000000 * greatestUnits ≤ 2 * unitsPerOne * unitsPerOne := by
      decide +kernel
    have positive : (0 : ℚ) < greatestUnits := by exact_mod_cast greatestUnits_pos
    rw [shrunkValue, le_div_iff₀ positive, exact]
    exact_mod_cast least.trans (Nat.mul_le_mul_right _ (Nat.mul_le_mul_right _ several))
  have resultClose := Binary64.nearestCode_within greatestUnits_pos (by decide) (by decide) large
  refine (shrunkCode_within_of significandClose resultClose).mono ?_
  simp only [rounding, roundingOf, cast_binade]
  norm_num

theorem units_wholeCode_mono {smaller larger : Nat} (order : smaller ≤ larger) :
    units (wholeCode smaller) ≤ units (wholeCode larger) :=
  Binary64.units_strictMono.monotone (Binary64.wholeCode_mono order)

/-- The significand is well above a power of two. -/
theorem shrunkCode_within_of_full {significand shift : Nat} (large : 2 * binade ≤ significand)
    (low : 5010000000000000 * twoTo shift ≤ significand)
    (high : significand < 2 * binade * twoTo shift) :
    Within (rounding * rounding) (units (shrunkCode significand))
      (significand * unitsPerOne / tenTo greatestPower) := by
  have significandClose : Within (roundingOf 5010000000000000) (units (wholeCode significand))
      (significand * unitsPerOne) := by
    have step : twoTo (shift + 1074) = twoTo shift * unitsPerOne := twoTo_add shift 1074
    have block : Binary64.Block (shift + 1074) 5010000000000000 :=
      ⟨.inr (by decide), by decide⟩
    have low : ((5010000000000000 : Nat) * twoTo (shift + 1074) : ℚ) ≤
        (significand * unitsPerOne : Nat) / (1 : Nat) := by
      rw [Nat.cast_one, div_one, step]
      exact_mod_cast (Nat.mul_assoc _ _ _).ge.trans (Nat.mul_le_mul_right unitsPerOne low)
    have high : ((significand * unitsPerOne : Nat) : ℚ) / (1 : Nat) ≤
        2 * binade * twoTo (shift + 1074) := by
      rw [Nat.cast_one, div_one, step]
      exact_mod_cast (Nat.mul_le_mul_right unitsPerOne high.le).trans (Nat.mul_assoc _ _ _).le
    have close := Binary64.nearestCode_within_block Nat.one_pos block (by decide) low high
    rw [Nat.cast_one, div_one, Nat.cast_mul] at close
    exact close
  have resultClose : Within rounding (units (shrunkCode significand)) (shrunkValue significand) := by
    refine Binary64.nearestCode_within greatestUnits_pos Binary64.binade_pos (Nat.le_refl _) ?_
    have positive : (0 : ℚ) < greatestUnits := by exact_mod_cast greatestUnits_pos
    have least : binade * greatestUnits ≤ 2 * binade * unitsPerOne * unitsPerOne := by
      decide +kernel
    have reached := units_wholeCode_mono large
    rw [units_wholeCode_significand (Nat.le_refl _)] at reached
    rw [le_div_iff₀ positive]
    exact_mod_cast least.trans (Nat.mul_le_mul_right _ reached)
  refine (shrunkCode_within_of significandClose resultClose).mono ?_
  simp only [rounding, roundingOf, cast_binade]
  norm_num

/-- The significand is so little above a power of two that the quotient is well above another one. -/
theorem shrunkCode_within_of_little {significand shift : Nat}
    (low : binade * twoTo shift ≤ significand)
    (high : significand ≤ 5010000000000000 * twoTo shift) (notZero : 0 < significand) :
    Within (rounding * rounding) (units (shrunkCode significand))
      (significand * unitsPerOne / tenTo greatestPower) := by
  have resultClose : Within (roundingOf 8000000000000000) (units (shrunkCode significand))
      (shrunkValue significand) := by
    have positive : (0 : ℚ) < greatestUnits := by exact_mod_cast greatestUnits_pos
    have step : twoTo (shift + 50) = twoTo shift * twoTo 50 := twoTo_add shift 50
    have block : Binary64.Block (shift + 50) 8000000000000000 := ⟨.inr (by decide), by decide⟩
    have lowest : 8000000000000000 * twoTo 50 * greatestUnits ≤
        binade * unitsPerOne * unitsPerOne := by decide +kernel
    have highest : 5010000000000000 * unitsPerOne * unitsPerOne ≤
        2 * binade * twoTo 50 * greatestUnits := by decide +kernel
    have reached := units_wholeCode_mono low
    rw [Binary64.units_wholeCode_of_short rfl (by omega)] at reached
    have kept := units_wholeCode_mono high
    rw [Binary64.units_wholeCode_of_short rfl (by decide)] at kept
    refine Binary64.nearestCode_within_block greatestUnits_pos block (by decide) ?_ ?_
    · rw [le_div_iff₀ positive, step]
      exact_mod_cast
        calc 8000000000000000 * (twoTo shift * twoTo 50) * greatestUnits
            = twoTo shift * (8000000000000000 * twoTo 50 * greatestUnits) := by ring
          _ ≤ twoTo shift * (binade * unitsPerOne * unitsPerOne) := Nat.mul_le_mul_left _ lowest
          _ = binade * twoTo shift * unitsPerOne * unitsPerOne := by ring
          _ ≤ units (wholeCode significand) * unitsPerOne := Nat.mul_le_mul_right _ reached
    · rw [div_le_iff₀ positive, step]
      exact_mod_cast
        calc units (wholeCode significand) * unitsPerOne
            ≤ 5010000000000000 * twoTo shift * unitsPerOne * unitsPerOne :=
              Nat.mul_le_mul_right _ kept
          _ = twoTo shift * (5010000000000000 * unitsPerOne * unitsPerOne) := by ring
          _ ≤ twoTo shift * (2 * binade * twoTo 50 * greatestUnits) :=
              Nat.mul_le_mul_left _ highest
          _ = 2 * binade * (twoTo shift * twoTo 50) * greatestUnits := by ring
  refine (shrunkCode_within_of (Binary64.wholeCode_within notZero) resultClose).mono ?_
  simp only [rounding, roundingOf, cast_binade]
  norm_num

theorem shrunkCode_within_of_rounded {significand : Nat} (large : 2 * binade < significand) :
    Within (rounding * rounding) (units (shrunkCode significand))
      (significand * unitsPerOne / tenTo greatestPower) := by
  obtain ⟨shift, -, -, below, normal, -⟩ := Binary64.exists_roundsIn Nat.one_pos significand
  rw [Nat.cast_one, div_one] at below normal
  have below : significand < 2 * binade * twoTo shift := by exact_mod_cast below
  have normal : binade * twoTo shift ≤ significand := by
    rcases normal with rfl | normal
    · rw [show twoTo 0 = 1 from rfl] at below
      omega
    · exact_mod_cast normal
  rcases Nat.le_total (5010000000000000 * twoTo shift) significand with full | little
  · exact shrunkCode_within_of_full large.le full below
  · exact shrunkCode_within_of_little normal little (by omega)

theorem shrunkCode_within {significand : Nat} (positive : 0 < significand) :
    Within (rounding * rounding) (units (shrunkCode significand))
      (significand * unitsPerOne / tenTo greatestPower) := by
  rcases Nat.lt_or_ge (2 * binade) significand with large | exact
  · exact shrunkCode_within_of_rounded large
  · rcases Nat.lt_or_ge 1 significand with several | one
    · exact shrunkCode_within_of_exact several exact
    · have one : significand = 1 := by omega
      rw [one, Nat.cast_one, one_mul]
      refine shrunkCode_one_within.mono (le_mul_of_one_le_left ?_ Binary64.one_lt_rounding.le)
      exact zero_le_one.trans Binary64.one_lt_rounding.le

theorem shrunk_quotient_within {significand power : Nat} (positive : 0 < significand)
    (bound : power ≤ 22) :
    Within (rounding * rounding)
      ((units (shrunkCode significand) * unitsPerOne : Nat) / units (wholeCode (tenTo power)))
      (inUnits significand (-(greatestPower + power : Nat))) := by
  have unitsPositive : (0 : ℚ) < unitsPerOne := by exact_mod_cast Binary64.unitsPerOne_pos
  have powerPositive : (0 : ℚ) < tenTo power := by exact_mod_cast tenTo_pos power
  have close := (shrunkCode_within positive).div (Within.refl powerPositive)
  have result : ((units (shrunkCode significand) * unitsPerOne : Nat) : ℚ) /
      units (wholeCode (tenTo power)) = units (shrunkCode significand) / tenTo power := by
    rw [units_wholeCode_tenTo bound, Nat.cast_mul, Nat.cast_mul,
      mul_div_mul_right _ _ unitsPositive.ne']
  have exact : inUnits significand (-(greatestPower + power : Nat)) =
      significand * unitsPerOne / tenTo greatestPower / tenTo power := by
    rw [Decimal.inUnits_negative_power, tenTo_add, div_div]
    push_cast
    rfl
  rwa [result, exact, ← mul_one (rounding * rounding)]

/-! ## The result -/

/-- What scaling rounds last is at most two roundings away from the decimal, and it is the decimal
itself if the significand and the power are numbers. -/
structure ScalesClosely (significand : Nat) (power : Int) (numerator denominator : Nat) : Prop
    extends ScalesTo significand power numerator denominator where
  close : Within (rounding * rounding) (numerator / denominator) (inUnits significand power)
  exact : IsShort significand power → (numerator : ℚ) / denominator = inUnits significand power

theorem product_eq_of_short {significand power : Nat} (short : IsShort significand power) :
    ((units (wholeCode significand) * units (wholeCode (tenTo power)) : Nat) : ℚ) / unitsPerOne =
      inUnits significand power := by
  obtain ⟨few, -, inRange⟩ := short
  have unitsPositive : (0 : ℚ) < unitsPerOne := by exact_mod_cast Binary64.unitsPerOne_pos
  have bound : twoTo 53 = 2 * binade := by decide
  rw [units_wholeCode_significand (by omega), units_wholeCode_tenTo (by omega),
    Decimal.inUnits_nonneg_power]
  push_cast
  field_simp

theorem quotient_eq_of_short {significand power : Nat} (short : IsShort significand (-power)) :
    ((units (wholeCode significand) * unitsPerOne : Nat) : ℚ) / units (wholeCode (tenTo power)) =
      inUnits significand (-power) := by
  obtain ⟨few, inRange, -⟩ := short
  have unitsPositive : (0 : ℚ) < unitsPerOne := by exact_mod_cast Binary64.unitsPerOne_pos
  have powerPositive : (0 : ℚ) < tenTo power := by exact_mod_cast tenTo_pos power
  have bound : twoTo 53 = 2 * binade := by decide
  rw [units_wholeCode_significand (by omega), units_wholeCode_tenTo (by omega),
    Decimal.inUnits_negative_power]
  push_cast
  field_simp

/-- Scaling rounds a close quotient if the decimal is of the size of the numbers. -/
theorem exists_scalesClosely {significand : Nat} {power : Int} (positive : 0 < significand)
    (bound : significand ≤ 27 * binade) (least : -324 ≤ power) (greatest : power ≤ 308) :
    ∃ numerator denominator, ScalesClosely significand power numerator denominator := by
  have large : 27 * binade ≤ tenTo 308 := by decide +kernel
  have bound := bound.trans large
  have limit : greatestPower = 308 := rfl
  rcases lt_or_ge power 0 with negative | nonnegative
  · obtain ⟨places, rfl⟩ : ∃ places : Nat, power = -(places + 1 : Nat) :=
      ⟨(-power - 1).toNat, by omega⟩
    rcases Nat.lt_or_ge greatestPower (places + 1) with deep | inRange
    · have close := shrunk_quotient_within positive
        (show places + 1 - greatestPower ≤ 22 by omega)
      rw [Nat.add_sub_cancel' deep.le] at close
      have notShort : ¬IsShort significand (-(places + 1 : Nat)) := by
        rintro ⟨-, notDeep, -⟩
        omega
      exact ⟨_, _, scalesTo_shrunk positive bound (by omega) (by omega), close,
        fun short => absurd short notShort⟩
    · exact ⟨_, _, scalesTo_quotient bound inRange, quotient_within positive,
        quotient_eq_of_short⟩
  · obtain ⟨places, rfl⟩ := Int.eq_ofNat_of_zero_le nonnegative
    exact ⟨_, _, scalesTo_product bound (by omega), product_within positive, product_eq_of_short⟩

/-- A decimal that stands for a magnitude, as the shortest decimal does, is read as a number at most
two codes away, and as that very magnitude if it is short. -/
theorem scale?_standsFor {previous significand : Nat} {power : Int}
    (stands : Decimal.StandsFor previous significand power) (inRange : previous + 3 < codeLimit) :
    ∃ code : Fin codeLimit, scale? significand power = some (.finite false code) ∧
      CodesNear code (previous + 1) ∧ (IsShort significand power → code.val = previous + 1) := by
  obtain ⟨numerator, denominator, scales⟩ :=
    exists_scalesClosely stands.positive stands.bound stands.least stands.greatest
  obtain ⟨above, below⟩ := stands.between
  have near : CodesNear (nearestCode numerator denominator) (previous + 1) := by
    refine Binary64.codesNear_of_within scales.positive scales.close ?_ ?_
    · intro before equal
      cases equal
      exact above.elim le_of_lt fun atEnd => le_of_eq atEnd.1
    · exact below.elim le_of_lt fun atEnd => le_of_eq atEnd.1
  have resultInRange : nearestCode numerator denominator < codeLimit :=
    Nat.lt_of_le_of_lt near.1 inRange
  refine ⟨⟨_, resultInRange⟩, scales.scaled resultInRange, near, ?_⟩
  intro short
  have equal := scales.exact short
  refine Binary64.nearestCode_eq_of_between scales.positive ?_ ?_
  · intro before same
    cases same
    rw [equal]
    exact above
  · rw [equal]
    exact below

end LoadReport.Json.Numeral
