import Mathlib.Algebra.Order.Field.Rat
import Mathlib.Data.Rat.Cast.Order
import Mathlib.Order.Monotone.Basic
import Mathlib.Tactic.Linarith
import Mathlib.Tactic.Ring
import LoadReport.Binary64.Basic

/-!
# Where rounding leads

The magnitudes are evenly spaced between two powers of two. Rounding gives at most a code exactly if
what is rounded lies below the middle between that code and the next, or on the middle and the code is
even. All that is needed of rounding follows from this: what is representable stays as it is, and a
rounded magnitude is at most half a spacing away.
-/

namespace LoadReport

theorem Rounding.nearestEven_le_iff {denominator : Nat} (positive : 0 < denominator)
    (numerator value : Nat) :
    nearestEven numerator denominator ≤ value ↔
      2 * numerator < (2 * value + 1) * denominator ∨
        2 * numerator = (2 * value + 1) * denominator ∧ value % 2 = 0 := by
  have division := Nat.div_add_mod numerator denominator
  have smaller := Nat.mod_lt numerator positive
  have expanded : (2 * value + 1) * denominator = 2 * (denominator * value) + denominator := by
    ring
  obtain ⟨atLeast, atMost⟩ := nearestEven_bounds numerator denominator
  rw [expanded]
  rcases Nat.lt_trichotomy value (numerator / denominator) with less | equal | greater
  · have product := Nat.mul_le_mul_left denominator (Nat.succ_le_of_lt less)
    rw [Nat.mul_succ] at product
    omega
  · subst equal
    simp only [nearestEven]
    split
    · omega
    · split <;> omega
  · have product := Nat.mul_le_mul_left denominator (Nat.succ_le_of_lt greater)
    rw [Nat.mul_succ] at product
    omega

namespace Binary64

theorem binade_pos : 0 < binade :=
  twoTo_pos 52

theorem binade_even : binade % 2 = 0 := by
  decide

/-! ## The spacing of the magnitudes -/

/-- A code is that many steps above the shifted start of a block of evenly spaced magnitudes, each step
two to the shift. Only the first block begins at zero. -/
structure Block (shift steps : Nat) : Prop where
  normal : shift = 0 ∨ binade ≤ steps
  bound : steps ≤ 2 * binade

theorem full_code (shift above : Nat) :
    shift * binade + (binade + above) = above + (shift + 1) * binade := by
  ring

theorem full_code_div (shift : Nat) {above : Nat} (bound : above < binade) :
    (shift * binade + (binade + above)) / binade = shift + 1 := by
  rw [full_code, Nat.add_mul_div_right _ _ binade_pos, Nat.div_eq_of_lt bound, Nat.zero_add]

theorem full_code_mod (shift : Nat) {above : Nat} (bound : above < binade) :
    (shift * binade + (binade + above)) % binade = above := by
  rw [full_code, Nat.add_mul_mod_self_right, Nat.mod_eq_of_lt bound]

theorem units_block {shift steps : Nat} (block : Block shift steps) :
    units (shift * binade + steps) = steps * twoTo shift := by
  have positive := binade_pos
  rcases Nat.lt_or_ge steps binade with below | full
  · have unshifted : shift = 0 := block.normal.resolve_right (Nat.not_le_of_lt below)
    simp [units, unshifted, below, twoTo]
  · obtain ⟨above, rfl⟩ := Nat.exists_eq_add_of_le full
    have notLeast : ¬shift * binade + (binade + above) < binade := by omega
    rcases Nat.lt_or_ge above binade with within | next
    · rw [units, if_neg notLeast, full_code_div shift within, full_code_mod shift within,
        Nat.add_sub_cancel]
    · -- The next power of two begins a block of its own.
      have equal : above = binade := by
        have bound := block.bound
        omega
      have code : shift * binade + (binade + binade) = (shift + 2) * binade := by ring
      rw [units, if_neg (equal ▸ notLeast), equal, code, Nat.mul_div_cancel _ positive,
        Nat.mul_mod_left]
      change (binade + 0) * twoTo (shift + 1) = _
      simp only [twoTo, Nat.pow_eq, Nat.pow_succ]
      ring

theorem spacing_block {shift steps : Nat} (block : Block shift steps)
    (notNext : steps < 2 * binade) : spacing (shift * binade + steps) = twoTo shift := by
  rcases Nat.lt_or_ge steps binade with below | full
  · have unshifted : shift = 0 := block.normal.resolve_right (Nat.not_le_of_lt below)
    simp [spacing, unshifted, Nat.div_eq_of_lt below]
  · obtain ⟨above, rfl⟩ := Nat.exists_eq_add_of_le full
    rw [spacing, full_code_div shift (by omega), Nat.add_sub_cancel]

theorem exists_block (code : Nat) :
    ∃ shift steps, Block shift steps ∧ steps < 2 * binade ∧ code = shift * binade + steps := by
  have positive := binade_pos
  rcases Nat.lt_or_ge code binade with below | above
  · exact ⟨0, code, ⟨.inl rfl, by omega⟩, by omega, by omega⟩
  · have division := Nat.div_add_mod code binade
    have remainder := Nat.mod_lt code positive
    have quotient : code / binade - 1 + 1 = code / binade :=
      Nat.sub_add_cancel (Nat.div_pos above positive)
    refine ⟨code / binade - 1, binade + code % binade, ⟨.inr (by omega), by omega⟩, by omega, ?_⟩
    calc code = code / binade * binade + code % binade := by rw [Nat.mul_comm, division]
      _ = (code / binade - 1 + 1) * binade + code % binade := by rw [quotient]
      _ = (code / binade - 1) * binade + (binade + code % binade) := by ring

theorem Block.succ {shift steps : Nat} (block : Block shift steps) (notNext : steps < 2 * binade) :
    Block shift (steps + 1) where
  normal := block.normal.imp_right fun lower => Nat.le_succ_of_le lower
  bound := notNext

theorem units_succ (code : Nat) : units (code + 1) = units code + spacing code := by
  obtain ⟨shift, steps, block, notNext, rfl⟩ := exists_block code
  rw [Nat.add_assoc, units_block (block.succ notNext), units_block block,
    spacing_block block notNext, Nat.succ_mul]

theorem spacing_pos (code : Nat) : 0 < spacing code :=
  twoTo_pos _

theorem spacing_mono : Monotone spacing := by
  intro first second order
  exact Nat.pow_le_pow_right (by decide) (Nat.sub_le_sub_right (Nat.div_le_div_right order) 1)

theorem units_strictMono : StrictMono units :=
  strictMono_nat_of_lt_succ fun code => by
    rw [units_succ]
    exact Nat.lt_add_of_pos_right (spacing_pos code)

/-- No magnitude is twice a power of two or more away from zero in its own spacing. -/
theorem units_add_spacing_le (code : Nat) :
    units code + spacing code ≤ 2 * binade * spacing code := by
  obtain ⟨shift, steps, block, notNext, rfl⟩ := exists_block code
  rw [units_block block, spacing_block block notNext, ← Nat.succ_mul]
  exact Nat.mul_le_mul_right _ notNext

/-! ## Middles -/

/-- The value half way between the magnitude with the given code and the next larger one. -/
def middle (code : Nat) : ℚ :=
  (units code + units (code + 1)) / 2

theorem middle_eq (code : Nat) : middle code = units code + (spacing code : ℚ) / 2 := by
  rw [middle, units_succ]
  push_cast
  ring

theorem units_lt_middle (code : Nat) : (units code : ℚ) < middle code := by
  have positive : (0 : ℚ) < spacing code := by exact_mod_cast spacing_pos code
  rw [middle_eq]
  linarith

theorem middle_lt_units_succ (code : Nat) : middle code < units (code + 1) := by
  have positive : (0 : ℚ) < spacing code := by exact_mod_cast spacing_pos code
  rw [middle_eq, units_succ]
  push_cast
  linarith

theorem middle_block {shift steps : Nat} (block : Block shift steps)
    (notNext : steps < 2 * binade) :
    middle (shift * binade + steps) = (2 * steps + 1) * (twoTo shift : ℚ) / 2 := by
  rw [middle_eq, units_block block, spacing_block block notNext]
  push_cast
  ring

theorem middle_strictMono : StrictMono middle := by
  refine strictMono_nat_of_lt_succ fun code => ?_
  have low := middle_lt_units_succ code
  have high := units_lt_middle (code + 1)
  linarith

/-! ## Rounding in a block -/

/-- A value in a block, and the number of steps it is rounded to. -/
structure RoundsIn (shift steps : Nat) (value : ℚ) : Prop where
  below : value < 2 * binade * twoTo shift
  normal : shift = 0 ∨ binade * twoTo shift ≤ value
  le_iff : ∀ bound : Nat, steps ≤ bound ↔
    value < (2 * bound + 1) * twoTo shift / 2 ∨
      value = (2 * bound + 1) * twoTo shift / 2 ∧ bound % 2 = 0

/-- The rounding of a quotient to whole steps of the given size. -/
theorem nearestEven_steps_le_iff {denominator step : Nat} (positive : 0 < denominator)
    (stepPositive : 0 < step) (numerator value : Nat) :
    Rounding.nearestEven numerator (denominator * step) ≤ value ↔
      (numerator : ℚ) / denominator < (2 * value + 1) * step / 2 ∨
        (numerator : ℚ) / denominator = (2 * value + 1) * step / 2 ∧ value % 2 = 0 := by
  have denominatorPositive : (0 : ℚ) < denominator := by exact_mod_cast positive
  have scaled : ((2 * value + 1) * (denominator * step) : ℚ) =
      2 * ((2 * value + 1) * step / 2 * denominator) := by ring
  rw [Rounding.nearestEven_le_iff (Nat.mul_pos positive stepPositive),
    div_lt_iff₀ denominatorPositive, div_eq_iff (ne_of_gt denominatorPositive),
    ← @Nat.cast_lt ℚ, ← @Nat.cast_inj ℚ]
  push_cast
  rw [scaled, mul_lt_mul_iff_right₀ (by norm_num : (0 : ℚ) < 2),
    mul_right_inj' (by norm_num : (2 : ℚ) ≠ 0)]

theorem lt_block_end (quotient : Nat) :
    quotient < 2 * binade * twoTo (Nat.log2 quotient - 52) := by
  have merged : 2 * binade * twoTo (Nat.log2 quotient - 52) =
      2 ^ (53 + (Nat.log2 quotient - 52)) := by
    rw [Nat.pow_add]
    rfl
  rw [merged]
  exact lt_of_lt_of_le Nat.lt_log2_self (Nat.pow_le_pow_right (by decide) (by omega))

theorem block_start_le {quotient : Nat} (large : 52 ≤ Nat.log2 quotient) :
    binade * twoTo (Nat.log2 quotient - 52) ≤ quotient := by
  have notZero : quotient ≠ 0 := by
    rintro rfl
    simp at large
  have parts : 2 ^ Nat.log2 quotient = binade * twoTo (Nat.log2 quotient - 52) := by
    change _ = 2 ^ 52 * 2 ^ (Nat.log2 quotient - 52)
    rw [← Nat.pow_add, Nat.add_sub_cancel' large]
  exact parts ▸ Nat.log2_self_le notZero

/-- Rounding takes place in a block that holds the value. -/
theorem exists_roundsIn {denominator : Nat} (positive : 0 < denominator) (numerator : Nat) :
    ∃ shift steps, nearestCode numerator denominator = shift * binade + steps ∧
      RoundsIn shift steps (numerator / denominator) := by
  have denominatorPositive : (0 : ℚ) < denominator := by exact_mod_cast positive
  refine ⟨_, _, rfl, ?_, ?_, nearestEven_steps_le_iff positive (twoTo_pos _) numerator⟩
  · have above := lt_block_end (numerator / denominator)
    rw [Nat.div_lt_iff_lt_mul positive] at above
    rw [div_lt_iff₀ denominatorPositive]
    exact_mod_cast above
  · rcases Nat.le_total (Nat.log2 (numerator / denominator)) 52 with small | large
    · exact .inl (Nat.sub_eq_zero_of_le small)
    · have below := block_start_le large
      rw [Nat.le_div_iff_mul_le positive] at below
      right
      rw [le_div_iff₀ denominatorPositive]
      exact_mod_cast below

namespace RoundsIn

variable {shift steps : Nat} {value : ℚ}

/-- Within the block, the steps decide. -/
theorem le_iff_of_block (rounds : RoundsIn shift steps value) {above : Nat}
    (block : Block shift above) (notNext : above < 2 * binade) :
    shift * binade + steps ≤ shift * binade + above ↔
      value < middle (shift * binade + above) ∨
        value = middle (shift * binade + above) ∧ (shift * binade + above) % 2 = 0 := by
  have parity : (shift * binade + above) % 2 = above % 2 := by
    have even := binade_even
    rw [Nat.add_mod, Nat.mul_mod, even]
    simp
  rw [Nat.add_le_add_iff_left, rounds.le_iff, middle_block block notNext, parity]

/-- Everything in the block is below the codes behind it. -/
theorem le_of_behind (rounds : RoundsIn shift steps value) {code : Nat}
    (behind : shift * binade + 2 * binade ≤ code) :
    shift * binade + steps ≤ code ∧ value < middle code := by
  have stop : Block shift (2 * binade) := ⟨.inr (by omega), Nat.le_refl _⟩
  have last : (2 * binade * twoTo shift : ℚ) ≤ units code := by
    have ordered := units_strictMono.monotone behind
    rw [units_block stop] at ordered
    exact_mod_cast ordered
  have below := rounds.below
  have lowest := units_lt_middle code
  have stepPositive : (0 : ℚ) < twoTo shift := by exact_mod_cast twoTo_pos shift
  have bound : steps ≤ 2 * binade := by
    rw [rounds.le_iff]
    left
    push_cast
    linarith
  exact ⟨by omega, by linarith⟩

/-- Everything in a block that does not begin at zero is above the codes before it. -/
theorem lt_of_before (rounds : RoundsIn shift steps value) {code : Nat}
    (start : (binade * twoTo shift : ℚ) ≤ value) (before : code < shift * binade + binade) :
    code < shift * binade + steps ∧ middle code < value := by
  have first : Block shift binade := ⟨.inr (Nat.le_refl _), by omega⟩
  have least : (units (code + 1) : ℚ) ≤ binade * twoTo shift := by
    have ordered := units_strictMono.monotone (Nat.succ_le_of_lt before)
    rw [units_block first] at ordered
    exact_mod_cast ordered
  have highest := middle_lt_units_succ code
  have stepPositive : (0 : ℚ) < twoTo shift := by exact_mod_cast twoTo_pos shift
  have predecessor : ((binade - 1 : Nat) : ℚ) = binade - 1 := by
    push_cast [binade_pos]
    rfl
  have bound : ¬steps ≤ binade - 1 := by
    rw [rounds.le_iff, predecessor]
    rintro (less | ⟨equal, -⟩) <;> linarith
  exact ⟨by omega, by linarith⟩

end RoundsIn

/-- Rounding gives at most the given code exactly below the middle above it, which belongs to the
even one of its two neighbours. -/
theorem nearestCode_le_iff {denominator : Nat} (positive : 0 < denominator)
    (numerator code : Nat) :
    nearestCode numerator denominator ≤ code ↔
      (numerator : ℚ) / denominator < middle code ∨
        (numerator : ℚ) / denominator = middle code ∧ code % 2 = 0 := by
  obtain ⟨shift, steps, rounded, rounds⟩ := exists_roundsIn positive numerator
  rw [rounded]
  rcases Nat.lt_or_ge code (shift * binade + 2 * binade) with inside | behind
  · rcases Nat.lt_or_ge code (shift * binade + binade) with before | full
    · rcases rounds.normal with rfl | start
      · have block : Block 0 code := ⟨.inl rfl, by omega⟩
        have here := rounds.le_iff_of_block block (by omega)
        simpa only [Nat.zero_mul, Nat.zero_add] using here
      · obtain ⟨less, below⟩ := rounds.lt_of_before start before
        refine iff_of_false (by omega) ?_
        rintro (above | ⟨equal, -⟩) <;> linarith
    · obtain ⟨above, rfl⟩ := Nat.exists_eq_add_of_le (le_trans (Nat.le_add_right _ _) full)
      have block : Block shift above := ⟨.inr (by omega), by omega⟩
      exact rounds.le_iff_of_block block (by omega)
  · obtain ⟨atMost, above⟩ := rounds.le_of_behind behind
    exact iff_of_true atMost (.inl above)

/-! ## What rounding keeps -/

/-- What rounds to a code or above lies at or above the middle below it. -/
theorem middle_le_of_lt_nearestCode {numerator denominator code : Nat}
    (positive : 0 < denominator) (above : code < nearestCode numerator denominator) :
    middle code ≤ (numerator : ℚ) / denominator := by
  by_contra below
  exact Nat.not_le_of_lt above ((nearestCode_le_iff positive _ _).mpr (.inl (not_le.mp below)))

/-- What rounds to a code or below lies at or below the middle above it. -/
theorem le_middle_nearestCode {denominator : Nat} (positive : 0 < denominator)
    (numerator : Nat) :
    (numerator : ℚ) / denominator ≤ middle (nearestCode numerator denominator) := by
  rcases (nearestCode_le_iff positive numerator _).mp (Nat.le_refl _) with less | ⟨equal, -⟩
  · exact le_of_lt less
  · exact le_of_eq equal

/-- Between the two middles around it lies what rounds to a code, and on them if the code is even. -/
theorem nearestCode_eq_of_between {numerator denominator code : Nat} (positive : 0 < denominator)
    (low : ∀ previous, previous + 1 = code →
      middle previous < (numerator : ℚ) / denominator ∨
        middle previous = (numerator : ℚ) / denominator ∧ code % 2 = 0)
    (high : (numerator : ℚ) / denominator < middle code ∨
      (numerator : ℚ) / denominator = middle code ∧ code % 2 = 0) :
    nearestCode numerator denominator = code := by
  refine Nat.le_antisymm ((nearestCode_le_iff positive _ _).mpr high) (Nat.le_of_not_lt ?_)
  intro below
  obtain ⟨previous, rfl⟩ := Nat.exists_eq_add_of_lt below
  have atMost : nearestCode numerator denominator ≤
      nearestCode numerator denominator + previous := Nat.le_add_right _ _
  rw [nearestCode_le_iff positive] at atMost
  rcases low _ rfl with above | ⟨equal, even⟩
  · rcases atMost with less | ⟨same, -⟩ <;> linarith
  · rcases atMost with less | ⟨same, alsoEven⟩
    · linarith
    · omega

/-- What is representable stays as it is. -/
theorem nearestCode_of_eq_units {numerator denominator code : Nat} (positive : 0 < denominator)
    (exact : (numerator : ℚ) / denominator = units code) :
    nearestCode numerator denominator = code := by
  refine nearestCode_eq_of_between positive ?_ (.inl (exact ▸ units_lt_middle code))
  rintro previous rfl
  exact .inl (exact ▸ middle_lt_units_succ previous)

/-- A magnitude that is at most what is rounded is at most what it is rounded to. -/
theorem le_nearestCode_of_units_le {numerator denominator code : Nat} (positive : 0 < denominator)
    (below : (units code : ℚ) ≤ numerator / denominator) :
    code ≤ nearestCode numerator denominator := by
  by_contra less
  have bound := le_middle_nearestCode positive numerator
  have next := middle_lt_units_succ (nearestCode numerator denominator)
  have ordered : (units (nearestCode numerator denominator + 1) : ℚ) ≤ units code := by
    exact_mod_cast units_strictMono.monotone (Nat.not_le.mp less)
  linarith

theorem nearestCode_le_of_le_units {numerator denominator code : Nat} (positive : 0 < denominator)
    (above : (numerator : ℚ) / denominator ≤ units code) :
    nearestCode numerator denominator ≤ code :=
  (nearestCode_le_iff positive _ _).mpr (.inl (lt_of_le_of_lt above (units_lt_middle code)))

theorem spacing_le_of_lt {shift code : Nat} (inside : code < shift * binade + 2 * binade) :
    spacing code ≤ twoTo shift := by
  have positive := binade_pos
  have last : Block shift (2 * binade - 1) := ⟨.inr (by omega), by omega⟩
  have ordered := spacing_mono (show code ≤ shift * binade + (2 * binade - 1) by omega)
  rwa [spacing_block last (by omega)] at ordered

theorem cast_spacing_le {shift code : Nat} (inside : code < shift * binade + 2 * binade) :
    (spacing code : ℚ) ≤ twoTo shift := by
  exact_mod_cast spacing_le_of_lt inside

section

variable {numerator denominator shift : Nat} (positive : 0 < denominator)
  (bound : (numerator : ℚ) / denominator ≤ 2 * binade * twoTo shift)
include positive bound

theorem nearestCode_le_of_le_block :
    nearestCode numerator denominator ≤ shift * binade + 2 * binade := by
  have stop : Block shift (2 * binade) := ⟨.inr (by omega), Nat.le_refl _⟩
  refine nearestCode_le_of_le_units positive ?_
  rw [units_block stop]
  exact_mod_cast bound

/-- Up to the end of a block, rounding raises a value by at most half a step of the block. -/
theorem units_nearestCode_le :
    (units (nearestCode numerator denominator) : ℚ) ≤
      numerator / denominator + (twoTo shift : ℚ) / 2 := by
  have inside := nearestCode_le_of_le_block positive bound
  have stepPositive : (0 : ℚ) < twoTo shift := by exact_mod_cast twoTo_pos shift
  cases rounded : nearestCode numerator denominator with
  | zero =>
    have nonnegative : (0 : ℚ) ≤ numerator / denominator :=
      div_nonneg (Nat.cast_nonneg _) (Nat.cast_nonneg _)
    rw [show units 0 = 0 by decide, Nat.cast_zero]
    linarith
  | succ previous =>
    rw [rounded] at inside
    have atLeast : previous < nearestCode numerator denominator := by omega
    have above := middle_le_of_lt_nearestCode positive atLeast
    have step := cast_spacing_le (Nat.lt_of_succ_le inside)
    rw [middle_eq] at above
    rw [units_succ]
    push_cast
    linarith

/-- Up to the end of a block, rounding lowers a value by at most half a step of the block. -/
theorem le_units_nearestCode :
    (numerator : ℚ) / denominator ≤
      units (nearestCode numerator denominator) + (twoTo shift : ℚ) / 2 := by
  have inside := nearestCode_le_of_le_block positive bound
  have stepPositive : (0 : ℚ) < twoTo shift := by exact_mod_cast twoTo_pos shift
  rcases Nat.lt_or_ge (nearestCode numerator denominator) (shift * binade + 2 * binade) with
    before | atEnd
  · have high := le_middle_nearestCode positive numerator
    have step := cast_spacing_le before
    rw [middle_eq] at high
    linarith
  · have stop : Block shift (2 * binade) := ⟨.inr (by omega), Nat.le_refl _⟩
    rw [Nat.le_antisymm inside atEnd, units_block stop]
    push_cast
    linarith

end

end Binary64

end LoadReport
