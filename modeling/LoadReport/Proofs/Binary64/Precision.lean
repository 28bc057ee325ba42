import Mathlib.Tactic.FieldSimp
import Mathlib.Tactic.Positivity
import LoadReport.Binary64.Arithmetic
import LoadReport.Proofs.Binary64.Nearest

/-!
# How far rounded operations drift

One rounding changes a value by a factor that is hardly more than one. The factors of several
operations multiply; up to the square of the factor of one rounding, the code that results is at most
two away from the code of a magnitude that the exact value lies around.
-/

namespace LoadReport.Binary64

/-- Two positive values, neither of which is more than the factor times the other. -/
structure Within (factor left right : ℚ) : Prop where
  leftPositive : 0 < left
  rightPositive : 0 < right
  below : left ≤ factor * right
  above : right ≤ factor * left

namespace Within

variable {factor other left right middle left' right' : ℚ}

theorem refl (positive : 0 < left) : Within 1 left left :=
  ⟨positive, positive, (one_mul left).ge, (one_mul left).ge⟩

theorem factor_pos (close : Within factor left right) : 0 < factor :=
  pos_of_mul_pos_left (lt_of_lt_of_le close.leftPositive close.below) close.rightPositive.le

theorem mono (close : Within factor left right) (larger : factor ≤ other) :
    Within other left right where
  leftPositive := close.leftPositive
  rightPositive := close.rightPositive
  below := close.below.trans (mul_le_mul_of_nonneg_right larger close.rightPositive.le)
  above := close.above.trans (mul_le_mul_of_nonneg_right larger close.leftPositive.le)

theorem trans (first : Within factor left middle) (second : Within other middle right) :
    Within (factor * other) left right where
  leftPositive := first.leftPositive
  rightPositive := second.rightPositive
  below :=
    calc left ≤ factor * middle := first.below
      _ ≤ factor * (other * right) := mul_le_mul_of_nonneg_left second.below first.factor_pos.le
      _ = factor * other * right := by ring
  above :=
    calc right ≤ other * middle := second.above
      _ ≤ other * (factor * left) := mul_le_mul_of_nonneg_left first.above second.factor_pos.le
      _ = factor * other * left := by ring

theorem mul (first : Within factor left right) (second : Within other left' right') :
    Within (factor * other) (left * left') (right * right') where
  leftPositive := mul_pos first.leftPositive second.leftPositive
  rightPositive := mul_pos first.rightPositive second.rightPositive
  below :=
    calc left * left' ≤ factor * right * (other * right') :=
          mul_le_mul first.below second.below second.leftPositive.le
            (mul_pos first.factor_pos first.rightPositive).le
      _ = factor * other * (right * right') := by ring
  above :=
    calc right * right' ≤ factor * left * (other * left') :=
          mul_le_mul first.above second.above second.rightPositive.le
            (mul_pos first.factor_pos first.leftPositive).le
      _ = factor * other * (left * left') := by ring

theorem inv (close : Within factor left right) : Within factor left⁻¹ right⁻¹ where
  leftPositive := inv_pos.mpr close.leftPositive
  rightPositive := inv_pos.mpr close.rightPositive
  below := by
    rw [← div_eq_mul_inv, le_div_iff₀ close.rightPositive, inv_mul_le_iff₀ close.leftPositive,
      mul_comm]
    exact close.above
  above := by
    rw [← div_eq_mul_inv, le_div_iff₀ close.leftPositive, inv_mul_le_iff₀ close.rightPositive,
      mul_comm]
    exact close.below

theorem div (first : Within factor left right) (second : Within other left' right') :
    Within (factor * other) (left / left') (right / right') := by
  rw [div_eq_mul_inv, div_eq_mul_inv]
  exact first.mul second.inv

end Within

/-! ## One rounding -/

/-- What one rounding of a value of at least that many steps changes it by at most. -/
def roundingOf (steps : Nat) : ℚ :=
  1 + 1 / (2 * steps)

theorem roundingOf_antitone {fewer more : Nat} (positive : 0 < fewer) (order : fewer ≤ more) :
    roundingOf more ≤ roundingOf fewer := by
  have fewerPositive : (0 : ℚ) < fewer := by exact_mod_cast positive
  have ordered : (fewer : ℚ) ≤ more := by exact_mod_cast order
  rw [roundingOf, roundingOf]
  gcongr

/-- The farther into its block a value lies, the less rounding changes it. -/
theorem nearestCode_within_block {numerator denominator shift steps : Nat}
    (positive : 0 < denominator) (block : Block shift steps) (notZero : 0 < steps)
    (low : (steps * twoTo shift : ℚ) ≤ numerator / denominator)
    (high : (numerator : ℚ) / denominator ≤ 2 * binade * twoTo shift) :
    Within (roundingOf steps) (units (nearestCode numerator denominator))
      (numerator / denominator) := by
  have stepPositive : (0 : ℚ) < twoTo shift := by exact_mod_cast twoTo_pos shift
  have stepsPositive : (0 : ℚ) < steps := by exact_mod_cast notZero
  have rounded : (steps * twoTo shift : ℚ) ≤ units (nearestCode numerator denominator) := by
    have code := units_block block
    have below : (units (shift * binade + steps) : ℚ) ≤ numerator / denominator := by
      rw [code]
      exact_mod_cast low
    have ordered := units_strictMono.monotone (le_nearestCode_of_units_le positive below)
    rw [code] at ordered
    exact_mod_cast ordered
  have up := units_nearestCode_le positive high
  have down := le_units_nearestCode positive high
  generalize (numerator : ℚ) / denominator = value at *
  generalize (units (nearestCode numerator denominator) : ℚ) = result at *
  have half : ∀ size : ℚ, steps * twoTo shift ≤ size →
      size + twoTo shift / 2 ≤ roundingOf steps * size := by
    intro size large
    have share : (twoTo shift : ℚ) ≤ size / steps := by
      rw [le_div_iff₀ stepsPositive]
      linarith
    calc size + twoTo shift / 2 ≤ size + size / steps / 2 := by linarith
      _ = roundingOf steps * size := by
        rw [roundingOf]
        field_simp
  have positiveStart : (0 : ℚ) < steps * twoTo shift := mul_pos stepsPositive stepPositive
  exact {
    leftPositive := positiveStart.trans_le rounded
    rightPositive := positiveStart.trans_le low
    below := up.trans (half value low)
    above := down.trans (half result rounded) }

/-- The same for a value of which only the size is known. -/
theorem nearestCode_within {numerator denominator least : Nat} (positive : 0 < denominator)
    (notZero : 0 < least) (bound : least ≤ binade)
    (large : (least : ℚ) ≤ numerator / denominator) :
    Within (roundingOf least) (units (nearestCode numerator denominator))
      (numerator / denominator) := by
  obtain ⟨shift, -, -, below, unshifted | normal, -⟩ := exists_roundsIn positive numerator
  · have block : Block shift least := ⟨.inl unshifted, by omega⟩
    refine nearestCode_within_block positive block notZero ?_ below.le
    rw [unshifted]
    simpa [twoTo] using large
  · have block : Block shift binade := ⟨.inr (Nat.le_refl _), by omega⟩
    exact (nearestCode_within_block positive block binade_pos normal below.le).mono
      (roundingOf_antitone notZero bound)

/-- What one rounding changes a value that is not tiny by at most. -/
def rounding : ℚ :=
  roundingOf binade

theorem one_lt_rounding : 1 < rounding := by
  have positive : (0 : ℚ) < binade := by exact_mod_cast binade_pos
  have share : (0 : ℚ) < 1 / (2 * binade) := by positivity
  rw [rounding, roundingOf]
  linarith

/-! ## Several roundings -/

/-- Two roundings do not reach the middle after the next. -/
theorem rounding_sq_mul_middle_lt (code : Nat) :
    rounding * rounding * middle code < middle (code + 2) := by
  have binadePositive : (0 : ℚ) < binade := by exact_mod_cast binade_pos
  have spacingPositive : (0 : ℚ) < spacing code := by exact_mod_cast spacing_pos code
  have size : (units code : ℚ) + spacing code ≤ 2 * binade * spacing code := by
    exact_mod_cast units_add_spacing_le code
  have next : (spacing code : ℚ) ≤ spacing (code + 1) := by
    exact_mod_cast spacing_mono (Nat.le_succ code)
  have afterNext : (spacing code : ℚ) ≤ spacing (code + 2) := by
    exact_mod_cast spacing_mono (Nat.le_add_right code 2)
  have far : middle code + 2 * spacing code ≤ middle (code + 2) := by
    rw [middle_eq, middle_eq, units_succ (code + 1), units_succ code]
    push_cast
    linarith
  have share : (1 / binade + 1 / (4 * binade ^ 2) : ℚ) * middle code < 2 * spacing code := by
    have bound : middle code ≤ (2 * binade - 1 / 2) * spacing code := by
      rw [middle_eq]
      linarith
    calc (1 / binade + 1 / (4 * binade ^ 2) : ℚ) * middle code
        ≤ (1 / binade + 1 / (4 * binade ^ 2)) * ((2 * binade - 1 / 2) * spacing code) :=
          mul_le_mul_of_nonneg_left bound (by positivity)
      _ = 2 * spacing code - spacing code / (8 * binade ^ 2) := by
        field_simp
        ring
      _ < 2 * spacing code := sub_lt_self _ (by positivity)
  calc rounding * rounding * middle code
      = middle code + (1 / binade + 1 / (4 * binade ^ 2)) * middle code := by
        rw [rounding, roundingOf]
        field_simp
        ring
    _ < middle code + 2 * spacing code := by linarith
    _ ≤ middle (code + 2) := far

/-- Codes that are at most two apart. -/
def CodesNear (first second : Nat) : Prop :=
  first ≤ second + 2 ∧ second ≤ first + 2

/-- What is two roundings away from a value that rounds to a code has a code near it. -/
theorem codesNear_of_within {numerator denominator code : Nat} {value : ℚ}
    (positive : 0 < denominator)
    (close : Within (rounding * rounding) (numerator / denominator) value)
    (low : ∀ previous, previous + 1 = code → middle previous ≤ value)
    (high : value ≤ middle code) : CodesNear (nearestCode numerator denominator) code := by
  have factorNonneg : 0 ≤ rounding * rounding := close.factor_pos.le
  constructor
  · refine (nearestCode_le_iff positive _ _).mpr (.inl ?_)
    calc (numerator : ℚ) / denominator ≤ rounding * rounding * value := close.below
      _ ≤ rounding * rounding * middle code := mul_le_mul_of_nonneg_left high factorNonneg
      _ < middle (code + 2) := rounding_sq_mul_middle_lt code
  · by_contra far
    obtain ⟨previous, rfl⟩ := Nat.exists_eq_add_of_lt (not_le.mp far)
    have reached : value < middle (nearestCode numerator denominator + 2) :=
      calc value ≤ rounding * rounding * (numerator / denominator) := close.above
        _ ≤ rounding * rounding * middle (nearestCode numerator denominator) :=
          mul_le_mul_of_nonneg_left (le_middle_nearestCode positive numerator) factorNonneg
        _ < middle (nearestCode numerator denominator + 2) := rounding_sq_mul_middle_lt _
    have least := low (nearestCode numerator denominator + 2 + previous) rfl
    have ordered := middle_strictMono.monotone
      (Nat.le_add_right (nearestCode numerator denominator + 2) previous)
    linarith

/-! ## Whole numbers -/

/-- The code that a natural number is rounded to. -/
def wholeCode (value : Nat) : Nat :=
  nearestCode (value * unitsPerOne) 1

theorem unitsPerOne_pos : 0 < unitsPerOne :=
  twoTo_pos 1074

/-- Short numbers are representable at every power of two. -/
theorem exists_units_eq {short : Nat} (bound : short ≤ 2 * binade) (exponent : Nat) :
    ∃ code, units code = short * twoTo exponent := by
  induction exponent generalizing short with
  | zero =>
    have block : Block 0 short := ⟨.inl rfl, bound⟩
    exact ⟨0 * binade + short, units_block block⟩
  | succ exponent inductionHypothesis =>
    rcases Nat.lt_or_ge short binade with below | full
    · obtain ⟨code, equal⟩ := inductionHypothesis (show 2 * short ≤ 2 * binade by omega)
      refine ⟨code, ?_⟩
      rw [equal, twoTo_succ]
      ring
    · have block : Block (exponent + 1) short := ⟨.inr full, bound⟩
      exact ⟨(exponent + 1) * binade + short, units_block block⟩

theorem units_wholeCode_of_short {value short exponent : Nat} (parts : value = short * twoTo exponent)
    (bound : short ≤ 2 * binade) : units (wholeCode value) = value * unitsPerOne := by
  obtain ⟨code, equal⟩ := exists_units_eq bound (exponent + 1074)
  have same : units code = value * unitsPerOne := by
    rw [equal, parts, unitsPerOne, twoTo_add, Nat.mul_assoc]
  have found : wholeCode value = code := by
    refine nearestCode_of_eq_units Nat.one_pos ?_
    rw [same, Nat.cast_one, div_one]
  rw [found, same]

theorem wholeCode_mono : Monotone wholeCode := by
  intro smaller larger order
  have scaled : ((smaller * unitsPerOne : Nat) : ℚ) / (1 : Nat) ≤
      (larger * unitsPerOne : Nat) / (1 : Nat) := by
    rw [Nat.cast_one, div_one, div_one]
    exact_mod_cast Nat.mul_le_mul_right _ order
  rw [wholeCode, nearestCode_le_iff Nat.one_pos]
  rcases (nearestCode_le_iff Nat.one_pos (larger * unitsPerOne) _).mp (Nat.le_refl _) with
    less | ⟨equal, even⟩
  · exact .inl (scaled.trans_lt less)
  · rcases lt_or_eq_of_le scaled with below | same
    · exact .inl (below.trans_le equal.le)
    · exact .inr ⟨same.trans equal, even⟩

theorem wholeCode_within {value : Nat} (notZero : 0 < value) :
    Within rounding (units (wholeCode value)) (value * unitsPerOne) := by
  have small : binade ≤ unitsPerOne := by decide +kernel
  have large : (binade : ℚ) ≤ (value * unitsPerOne : Nat) / (1 : Nat) := by
    rw [Nat.cast_one, div_one]
    exact_mod_cast small.trans (Nat.le_mul_of_pos_left _ notZero)
  have close := nearestCode_within Nat.one_pos binade_pos (Nat.le_refl _) large
  rw [Nat.cast_one, div_one, Nat.cast_mul] at close
  exact close

theorem wholeCode_lt {value : Nat} (bound : value ≤ tenTo 308) : wholeCode value < codeLimit := by
  have limit : tenTo 308 * unitsPerOne ≤ units (codeLimit - 1) := by decide +kernel
  have positive : 0 < codeLimit := by decide
  have below : wholeCode value ≤ codeLimit - 1 := by
    refine nearestCode_le_of_le_units Nat.one_pos ?_
    rw [Nat.cast_one, div_one]
    exact_mod_cast (Nat.mul_le_mul_right _ bound).trans limit
  omega

theorem units_wholeCode_pos {value : Nat} (notZero : 0 < value) : 0 < units (wholeCode value) := by
  exact_mod_cast (wholeCode_within notZero).leftPositive

/-! ## Results of operations -/

theorem ofUnits_eq_finite {negative : Bool} {numerator denominator : Nat}
    (inRange : nearestCode numerator denominator < codeLimit) :
    ofUnits negative numerator denominator =
      finite negative ⟨nearestCode numerator denominator, inRange⟩ :=
  dif_pos inRange

theorem ofNat_eq_finite {value : Nat} (bound : value ≤ tenTo 308) :
    ofNat value = finite false ⟨wholeCode value, wholeCode_lt bound⟩ :=
  ofUnits_eq_finite (wholeCode_lt bound)

theorem mul_eq_finite {left right : Nat} (leftInRange : left < codeLimit)
    (rightInRange : right < codeLimit)
    (inRange : nearestCode (units left * units right) unitsPerOne < codeLimit) :
    finite false ⟨left, leftInRange⟩ * finite false ⟨right, rightInRange⟩ =
      finite false ⟨nearestCode (units left * units right) unitsPerOne, inRange⟩ := by
  change Binary64.mul _ _ = _
  rw [Binary64.mul, bne_self_eq_false]
  exact ofUnits_eq_finite inRange

theorem div_eq_finite {left right : Nat} (leftInRange : left < codeLimit)
    (rightInRange : right < codeLimit) (notZero : 0 < units right)
    (inRange : nearestCode (units left * unitsPerOne) (units right) < codeLimit) :
    finite false ⟨left, leftInRange⟩ / finite false ⟨right, rightInRange⟩ =
      finite false ⟨nearestCode (units left * unitsPerOne) (units right), inRange⟩ := by
  have codeNotZero : right ≠ 0 := by
    rintro rfl
    exact absurd notZero (by decide)
  change Binary64.div _ _ = _
  rw [Binary64.div, if_neg codeNotZero, bne_self_eq_false]
  exact ofUnits_eq_finite inRange

end LoadReport.Binary64
