import LoadReport.Decimal.Shortest
import LoadReport.Proofs.Binary64.Precision

/-!
# Where the shortest decimal lies

The search on the grid takes the coarsest power of ten with a multiple in the rounding interval. So the
decimal it finds rounds to the magnitude, and ten times its power of ten is at least as long as the
interval. The latter bounds the digits of the decimal, and the size of the numbers its power of ten.
-/

namespace LoadReport.Decimal.Interval

open Binary64 (units spacing binade middle)

theorem gridScale_pos : 0 < gridScale := by
  decide +kernel

/-- A grid point in units. -/
def gridUnits (point : Nat) : ℚ :=
  point / (4 * gridScale)

/-! ## The search -/

/-- The magnitude is inside its interval. -/
structure Proper (interval : Interval) : Prop where
  low : interval.low < interval.value
  high : interval.value < interval.high

theorem contains_iff (interval : Interval) (point : Nat) :
    interval.contains point = true ↔
      (interval.low < point ∨ interval.low = point ∧ interval.closed = true) ∧
        (point < interval.high ∨ point = interval.high ∧ interval.closed = true) := by
  unfold contains
  cases interval.closed
  · simp
  · simp
    omega

theorem contains_of_multiple? {interval : Interval} {tie : Tie} {step factor : Nat}
    (found : interval.multiple? tie step = some factor) :
    interval.contains (factor * step) = true := by
  simp only [multiple?] at found
  split at found
  · cases found
  next lower upper => cases found; exact lower
  next lower upper => cases found; exact upper
  next lower upper =>
    -- Of two candidates, either is in the interval.
    split at found
    · cases found; exact lower
    · split at found
      · cases found; exact upper
      · cases tie with
        | upper => cases found; exact upper
        | even =>
          cases found
          rcases Nat.mod_two_eq_zero_or_one (interval.value / step) with even | odd
          · rw [even]; exact lower
          · rw [odd]; exact upper

/-- A power of ten without a multiple in the interval is at least as long as the interval. -/
theorem high_le_of_multiple?_eq_none {interval : Interval} (proper : interval.Proper) {tie : Tie}
    {step : Nat} (positive : 0 < step) (missing : interval.multiple? tie step = none) :
    interval.high ≤ interval.low + step := by
  have atMost : interval.value / step * step ≤ interval.value := Nat.div_mul_le_self _ _
  have next : interval.value < (interval.value / step + 1) * step := by
    rw [Nat.add_mul, Nat.one_mul]
    exact Nat.lt_div_mul_add positive
  have low := proper.low
  have high := proper.high
  simp only [multiple?] at missing
  split at missing
  next noLower noUpper =>
    rw [← Bool.not_eq_true, contains_iff] at noLower noUpper
    rw [Nat.add_mul, Nat.one_mul] at next noUpper
    omega
  next => cases missing
  next => cases missing
  next =>
    -- Of two candidates, one is always taken.
    split at missing
    · cases missing
    · split at missing
      · cases missing
      · cases tie <;> cases missing

theorem coarsest_contains {interval : Interval} (proper : interval.Proper) (tie : Tie)
    (place : Nat) :
    interval.contains
      ((interval.coarsest tie place).1 * tenTo (interval.coarsest tie place).2) = true := by
  induction place with
  | zero =>
    rw [coarsest, contains_iff]
    simp only [tenTo, Nat.pow_eq, Nat.pow_zero, Nat.mul_one]
    exact ⟨.inl proper.low, .inl proper.high⟩
  | succ place inductionHypothesis =>
    rw [coarsest]
    split
    next factor found => exact contains_of_multiple? found
    next missing => exact inductionHypothesis

/-- Unless the search ends where it starts, the next coarser power of ten has no multiple. -/
theorem coarsest_maximal (interval : Interval) (tie : Tie) (place : Nat) :
    (interval.coarsest tie place).2 = place ∨
      interval.multiple? tie (tenTo ((interval.coarsest tie place).2 + 1)) = none := by
  induction place with
  | zero => exact .inl rfl
  | succ place inductionHypothesis =>
    rw [coarsest]
    split
    next factor found => exact .inl rfl
    next missing =>
      rcases inductionHypothesis with equal | missingNext
      · rw [equal]
        exact .inr missing
      · exact .inr missingNext

/-! ## The interval of a magnitude -/

theorem gridUnits_add (first second : Nat) :
    gridUnits (first + second) = gridUnits first + gridUnits second := by
  rw [gridUnits, Nat.cast_add, add_div]
  rfl

theorem gridUnits_mul (factor point : Nat) :
    gridUnits (factor * point) = factor * gridUnits point := by
  rw [gridUnits, Nat.cast_mul, mul_div_assoc]
  rfl

/-- Only below a power of two is the distance to the lower neighbour half that to the upper one. -/
theorem spacing_succ (previous : Nat) :
    spacing (previous + 1) =
      if (previous + 1) % binade = 0 ∧ 2 * binade ≤ previous + 1 then 2 * spacing previous
      else spacing previous := by
  have positive := Binary64.binade_pos
  simp only [spacing, Nat.succ_div, ← Nat.dvd_iff_mod_eq_zero]
  by_cases begins : binade ∣ previous + 1
  · have second : 2 * binade ≤ previous + 1 ↔ 1 ≤ previous / binade := by
      rw [← Nat.le_div_iff_mul_le positive, Nat.succ_div, if_pos begins]
      omega
    rw [if_pos begins, Nat.add_sub_cancel]
    rcases Nat.eq_zero_or_pos (previous / binade) with zero | later
    · have first : ¬2 * binade ≤ previous + 1 := fun bound => by have := second.mp bound; omega
      rw [if_neg fun narrow => first narrow.2, zero]
    · rw [if_pos ⟨begins, second.mpr later⟩, ← twoTo_succ, Nat.sub_add_cancel later]
  · simp [begins]

/-- The interval reaches from the middle below a magnitude to the middle above it. -/
theorem gridUnits_ofCode (previous : Nat) :
    gridUnits (ofCode (previous + 1)).low = middle previous ∧
      gridUnits (ofCode (previous + 1)).value = units (previous + 1) ∧
      gridUnits (ofCode (previous + 1)).high = middle (previous + 1) := by
  have positive : (0 : ℚ) < gridScale := by exact_mod_cast gridScale_pos
  have lower : (ofCode (previous + 1)).low =
      (4 * units (previous + 1) - 2 * spacing previous) * gridScale := by
    simp only [ofCode]
    rw [spacing_succ previous]
    split <;> rfl
  have room : 2 * spacing previous ≤ 4 * units (previous + 1) := by
    rw [Binary64.units_succ]
    omega
  rw [lower, Binary64.middle_eq, Binary64.middle_eq]
  simp only [gridUnits, ofCode]
  push_cast [room]
  rw [Binary64.units_succ previous]
  push_cast
  refine ⟨?_, ?_, ?_⟩
  · field_simp
    ring
  · field_simp
  · field_simp
    ring

theorem gridUnits_lt_iff {first second : Nat} :
    gridUnits first < gridUnits second ↔ first < second := by
  have positive : (0 : ℚ) < 4 * gridScale := by
    have positive := gridScale_pos
    exact_mod_cast Nat.mul_pos (by decide : 0 < 4) positive
  rw [gridUnits, gridUnits, div_lt_div_iff_of_pos_right positive, Nat.cast_lt]

theorem gridUnits_le_iff {first second : Nat} :
    gridUnits first ≤ gridUnits second ↔ first ≤ second := by
  rw [← not_lt, gridUnits_lt_iff, Nat.not_lt]

theorem ofCode_proper (previous : Nat) : (ofCode (previous + 1)).Proper := by
  obtain ⟨low, value, high⟩ := gridUnits_ofCode previous
  constructor
  · rw [← gridUnits_lt_iff, low, value]
    exact Binary64.middle_lt_units_succ previous
  · rw [← gridUnits_lt_iff, value, high]
    exact Binary64.units_lt_middle (previous + 1)

/-- A value between the two middles around a magnitude, which belong to even codes. -/
def Between (previous : Nat) (value : ℚ) : Prop :=
  (middle previous < value ∨ middle previous = value ∧ (previous + 1) % 2 = 0) ∧
    (value < middle (previous + 1) ∨ value = middle (previous + 1) ∧ (previous + 1) % 2 = 0)

theorem between_of_contains {previous point : Nat}
    (contained : (ofCode (previous + 1)).contains point = true) :
    Between previous (gridUnits point) := by
  obtain ⟨low, value, high⟩ := gridUnits_ofCode previous
  obtain ⟨above, below⟩ := (contains_iff _ _).mp contained
  rw [Between, ← low, ← high, gridUnits_lt_iff, gridUnits_lt_iff]
  constructor
  · refine above.imp_right fun atEnd => ?_
    rw [atEnd.1]
    exact ⟨rfl, of_decide_eq_true atEnd.2⟩
  · refine below.imp_right fun atEnd => ?_
    rw [atEnd.1]
    exact ⟨rfl, of_decide_eq_true atEnd.2⟩

end LoadReport.Decimal.Interval

namespace LoadReport.Decimal

open Binary64 (units spacing binade middle)
/-- A decimal in units. -/
def inUnits (coefficient : Nat) (exponent : Int) : ℚ :=
  coefficient * 10 ^ exponent * Binary64.unitsPerOne

theorem cast_tenTo (exponent : Nat) : (tenTo exponent : ℚ) = 10 ^ (exponent : Int) := by
  rw [tenTo, Nat.pow_eq, zpow_natCast]
  push_cast
  rfl

theorem gridUnits_eq_inUnits (factor place : Nat) :
    Interval.gridUnits (factor * tenTo place) = inUnits factor (place - 1076) := by
  have scales : 4 * Interval.gridScale * Binary64.unitsPerOne = tenTo 1076 := by decide +kernel
  have scales : ((4 * Interval.gridScale * Binary64.unitsPerOne : Nat) : ℚ) = 10 ^ (1076 : Int) := by
    have power := cast_tenTo 1076
    rw [Nat.cast_ofNat] at power
    rw [scales, power]
  rw [Nat.cast_mul, Nat.cast_mul, Nat.cast_ofNat] at scales
  have gridPositive : (0 : ℚ) < Interval.gridScale := by exact_mod_cast Interval.gridScale_pos
  have unitsPositive : (0 : ℚ) < Binary64.unitsPerOne := by exact_mod_cast twoTo_pos 1074
  rw [Interval.gridUnits, inUnits, zpow_sub₀ (by norm_num), ← scales, Nat.cast_mul, cast_tenTo]
  field_simp

theorem gridUnits_tenTo (place : Nat) :
    Interval.gridUnits (tenTo place) = inUnits 1 (place - 1076) := by
  rw [← gridUnits_eq_inUnits, Nat.one_mul]

/-! ## The shortest decimal -/

/-- No power of ten from the start of the search on is as small as the upper end. -/
theorem lt_tenTo_log2 {value : Nat} (large : 30 ≤ Nat.log2 value) :
    value < tenTo (Nat.log2 value / 3) := by
  have grows : ∀ exponent, 10 ≤ exponent → 8 * 8 ^ exponent ≤ 10 ^ exponent := by
    intro exponent large
    induction exponent, large using Nat.le_induction with
    | base => decide
    | succ exponent large inductionHypothesis =>
      rw [Nat.pow_succ, Nat.pow_succ]
      omega
  have third : Nat.log2 value + 1 ≤ 3 * (Nat.log2 value / 3 + 1) := by omega
  calc value < 2 ^ (Nat.log2 value + 1) := Nat.lt_log2_self
    _ ≤ 2 ^ (3 * (Nat.log2 value / 3 + 1)) := Nat.pow_le_pow_right (by decide) third
    _ = 8 * 8 ^ (Nat.log2 value / 3) := by rw [Nat.pow_mul, Nat.pow_succ, Nat.mul_comm]
    _ ≤ 10 ^ (Nat.log2 value / 3) := grows _ (by omega)

theorem high_large (previous : Nat) :
    30 ≤ Nat.log2 (Interval.ofCode (previous + 1)).high := by
  have grid : 2 ^ 30 ≤ Interval.gridScale := by decide +kernel
  have atLeast : Interval.gridScale ≤ (Interval.ofCode (previous + 1)).high := by
    exact Nat.le_mul_of_pos_left _ (Nat.add_pos_right _ (Nat.mul_pos (by decide)
      (Binary64.spacing_pos _)))
  have notZero : (Interval.ofCode (previous + 1)).high ≠ 0 := by omega
  rw [Nat.le_log2 notZero]
  omega

theorem low_pos (previous : Nat) : 0 < (Interval.ofCode (previous + 1)).low := by
  have zero : Interval.gridUnits 0 = 0 := by
    rw [Interval.gridUnits, Nat.cast_zero, zero_div]
  have positive : (0 : ℚ) ≤ units previous := Nat.cast_nonneg _
  rw [← Interval.gridUnits_lt_iff, (Interval.gridUnits_ofCode previous).1, zero]
  exact positive.trans_lt (Binary64.units_lt_middle previous)

/-- The search leads to a multiple in the interval of a power of ten, ten times which is at least as
long as the interval. -/
theorem coarsest_spec (tie : Tie) (previous top : Nat)
    (large : (Interval.ofCode (previous + 1)).high < tenTo top) :
    ∃ factor place : Nat, (Interval.ofCode (previous + 1)).coarsest tie top = (factor, place) ∧
      Interval.Between previous (inUnits factor (place - 1076)) ∧
      middle (previous + 1) ≤ middle previous + 10 * inUnits 1 (place - 1076) := by
  have proper := Interval.ofCode_proper previous
  have positive := low_pos previous
  have contained := Interval.coarsest_contains proper tie top
  have maximal := Interval.coarsest_maximal (Interval.ofCode (previous + 1)) tie top
  obtain ⟨-, -, upperEnd⟩ := Interval.gridUnits_ofCode previous
  obtain ⟨lowerEnd, -⟩ := Interval.gridUnits_ofCode previous
  generalize (Interval.ofCode (previous + 1)).coarsest tie top = result at contained maximal ⊢
  obtain ⟨factor, place⟩ := result
  dsimp only at contained maximal
  refine ⟨factor, place, rfl, ?_, ?_⟩
  · rw [← gridUnits_eq_inUnits]
    exact Interval.between_of_contains contained
  · have missing : (Interval.ofCode (previous + 1)).multiple? tie (tenTo (place + 1)) = none := by
      refine maximal.resolve_left ?_
      rintro rfl
      -- Of a power of ten above the interval only zero would be a multiple in reach.
      obtain ⟨above, below⟩ := (Interval.contains_iff _ _).mp contained
      rcases Nat.eq_zero_or_pos factor with rfl | notZero
      · omega
      · have atLeast := Nat.le_mul_of_pos_left (tenTo place) notZero
        omega
    have long := Interval.high_le_of_multiple?_eq_none proper (tenTo_pos _) missing
    have ten : (10 : ℚ) * Interval.gridUnits (tenTo place) =
        Interval.gridUnits (tenTo (place + 1)) := by
      rw [tenTo_succ, Interval.gridUnits_mul]
      rfl
    rw [← upperEnd, ← lowerEnd, ← gridUnits_tenTo, ten, ← Interval.gridUnits_add]
    exact Interval.gridUnits_le_iff.mpr long

theorem shortest_spec (tie : Tie) (previous : Nat) :
    ∃ factor place : Nat, shortest tie (previous + 1) = ⟨factor, place - 1076⟩ ∧
      Interval.Between previous (inUnits factor (place - 1076)) ∧
      middle (previous + 1) ≤ middle previous + 10 * inUnits 1 (place - 1076) := by
  obtain ⟨factor, place, found, between, long⟩ :=
    coarsest_spec tie previous _ (lt_tenTo_log2 (high_large previous))
  refine ⟨factor, place, ?_, between, long⟩
  rw [shortest, found]
  rfl

/-- A decimal that rounds to the magnitude with the code after the given one, with a significand of
seventeen digits or so and a power of ten of the size of the numbers. -/
structure StandsFor (previous significand : Nat) (power : Int) : Prop where
  between : Interval.Between previous (inUnits significand power)
  positive : 0 < significand
  bound : significand ≤ 27 * binade
  least : -324 ≤ power
  greatest : power ≤ 308

theorem inUnits_eq_mul (significand : Nat) (power : Int) :
    inUnits significand power = significand * inUnits 1 power := by
  rw [inUnits, inUnits]
  ring

theorem inUnits_pos {significand : Nat} (positive : 0 < significand) (power : Int) :
    0 < inUnits significand power := by
  have unitsPositive : (0 : ℚ) < Binary64.unitsPerOne := by exact_mod_cast twoTo_pos 1074
  have significandPositive : (0 : ℚ) < significand := by exact_mod_cast positive
  have powerPositive : (0 : ℚ) < 10 ^ power := zpow_pos (by norm_num) power
  exact mul_pos (mul_pos significandPositive powerPositive) unitsPositive

theorem significand_le {previous significand : Nat} {power : Int}
    (below : inUnits significand power ≤ middle (previous + 1))
    (long : middle (previous + 1) ≤ middle previous + 10 * inUnits 1 power) :
    significand ≤ 27 * binade := by
  have stepPositive := inUnits_pos Nat.one_pos power
  have size : (units (previous + 1) : ℚ) + spacing (previous + 1) ≤
      2 * binade * spacing (previous + 1) := by
    exact_mod_cast Binary64.units_add_spacing_le (previous + 1)
  have half : (spacing (previous + 1) : ℚ) ≤ 2 * spacing previous := by
    have half : spacing (previous + 1) ≤ 2 * spacing previous := by
      rw [Interval.spacing_succ]
      split <;> omega
    exact_mod_cast half
  have spacingPositive : (0 : ℚ) < spacing (previous + 1) := by
    exact_mod_cast Binary64.spacing_pos (previous + 1)
  have binadePositive : (0 : ℚ) < binade := by exact_mod_cast Binary64.binade_pos
  have room : (3 : ℚ) / 4 * spacing (previous + 1) ≤ 10 * inUnits 1 power := by
    rw [Binary64.middle_eq, Binary64.middle_eq, Binary64.units_succ previous] at long
    push_cast at long
    linarith
  have total : significand * inUnits 1 power ≤ 27 * binade * inUnits 1 power := by
    rw [← inUnits_eq_mul]
    calc inUnits significand power ≤ middle (previous + 1) := below
      _ ≤ 2 * binade * spacing (previous + 1) := by
        rw [Binary64.middle_eq]
        linarith
      _ ≤ 2 * binade * (40 / 3 * inUnits 1 power) :=
        mul_le_mul_of_nonneg_left (by linarith) (by positivity)
      _ ≤ 27 * binade * inUnits 1 power := by
        have product := mul_pos binadePositive stepPositive
        linarith
  exact_mod_cast le_of_mul_le_mul_right total stepPositive

theorem inUnits_lt_iff {first second : Int} :
    inUnits 1 first < inUnits 1 second ↔ first < second := by
  have unitsPositive : (0 : ℚ) < Binary64.unitsPerOne := by exact_mod_cast twoTo_pos 1074
  rw [inUnits, inUnits, Nat.cast_one, one_mul, one_mul, mul_lt_mul_iff_left₀ unitsPositive,
    zpow_lt_zpow_iff_right₀ (by norm_num)]

theorem inUnits_nonneg_power (significand power : Nat) :
    inUnits significand power = (significand * tenTo power * Binary64.unitsPerOne : Nat) := by
  rw [inUnits, Nat.cast_mul, Nat.cast_mul, cast_tenTo]

theorem inUnits_negative_power (significand power : Nat) :
    inUnits significand (-power) = (significand * Binary64.unitsPerOne : Nat) / tenTo power := by
  rw [inUnits, Nat.cast_mul, cast_tenTo, zpow_neg]
  ring

/-- All finite magnitudes are below the power of ten after the greatest one among them. -/
theorem units_lt_inUnits {code : Nat} (inRange : code ≤ Binary64.codeLimit) :
    (units code : ℚ) < inUnits 1 (309 : Nat) := by
  have limit : units Binary64.codeLimit < 1 * tenTo 309 * Binary64.unitsPerOne := by
    decide +kernel
  rw [inUnits_nonneg_power]
  exact_mod_cast (Binary64.units_strictMono.monotone inRange).trans_lt limit

/-- A fifth of the least magnitude is still above this power of ten. -/
theorem inUnits_lt_one : inUnits 1 (-(324 : Nat)) < 1 := by
  have bound : 1 * Binary64.unitsPerOne < tenTo 324 := by decide +kernel
  have positive : (0 : ℚ) < tenTo 324 := by exact_mod_cast tenTo_pos 324
  rw [inUnits_negative_power, div_lt_one positive]
  exact_mod_cast bound

theorem inUnits_succ_power (power : Int) : inUnits 1 (power + 1) = 10 * inUnits 1 power := by
  rw [inUnits, inUnits, zpow_add_one₀ (by norm_num)]
  ring

/-- Every interval is at least as long as the least magnitude. -/
theorem middle_add_one_le (previous : Nat) :
    middle previous + 1 ≤ middle (previous + 1) := by
  have lower : (1 : ℚ) ≤ spacing previous := by exact_mod_cast Binary64.spacing_pos previous
  have upper : (1 : ℚ) ≤ spacing (previous + 1) := by
    exact_mod_cast Binary64.spacing_pos (previous + 1)
  rw [Binary64.middle_eq, Binary64.middle_eq, Binary64.units_succ]
  push_cast
  linarith

theorem le_power_of_long {previous : Nat} {power : Int}
    (long : middle (previous + 1) ≤ middle previous + 10 * inUnits 1 power) : -324 ≤ power := by
  have length := middle_add_one_le previous
  have above : inUnits 1 (-(324 : Nat)) < inUnits 1 (power + 1) := by
    rw [inUnits_succ_power]
    exact inUnits_lt_one.trans_le (by linarith)
  rw [inUnits_lt_iff] at above
  omega

theorem power_le_of_below {previous significand : Nat} {power : Int} (positive : 0 < significand)
    (inRange : previous + 1 < Binary64.codeLimit)
    (below : inUnits significand power ≤ middle (previous + 1)) : power ≤ 308 := by
  have one : (1 : ℚ) ≤ significand := by exact_mod_cast positive
  have less : inUnits 1 power < inUnits 1 (309 : Nat) :=
    calc inUnits 1 power ≤ significand * inUnits 1 power :=
          le_mul_of_one_le_left (inUnits_pos Nat.one_pos power).le one
      _ = inUnits significand power := (inUnits_eq_mul significand power).symm
      _ ≤ middle (previous + 1) := below
      _ < units (previous + 2) := Binary64.middle_lt_units_succ (previous + 1)
      _ < inUnits 1 (309 : Nat) := units_lt_inUnits inRange
  rw [inUnits_lt_iff] at less
  omega

/-- The shortest decimal of a finite number stands for it. -/
theorem shortest_standsFor (tie : Tie) (previous : Nat)
    (inRange : previous + 1 < Binary64.codeLimit) :
    StandsFor previous (shortest tie (previous + 1)).coefficient
      (shortest tie (previous + 1)).exponent := by
  obtain ⟨factor, place, found, between, long⟩ := shortest_spec tie previous
  rw [found]
  have low : middle previous ≤ inUnits factor (place - 1076) :=
    between.1.elim le_of_lt fun atEnd => le_of_eq atEnd.1
  have high : inUnits factor (place - 1076) ≤ middle (previous + 1) :=
    between.2.elim le_of_lt fun atEnd => le_of_eq atEnd.1
  have middlePositive : 0 < middle previous :=
    lt_of_le_of_lt (Nat.cast_nonneg _) (Binary64.units_lt_middle previous)
  have positive : 0 < factor := by
    refine Nat.pos_of_ne_zero ?_
    rintro rfl
    rw [inUnits, Nat.cast_zero, zero_mul, zero_mul] at low
    linarith
  exact ⟨between, positive, significand_le high long, le_power_of_long long,
    power_le_of_below positive inRange high⟩

end LoadReport.Decimal
