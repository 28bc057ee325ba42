import LoadReport.Measurement
import LoadReport.Proofs.Binary64.Value
import LoadReport.Proofs.Outcomes

/-!
# Measurements in range

The values of a measurement are checked metric by metric, each for its sign and then for the maximum of
its metric. A measurement whose values are all in range is accepted (`check_eq_ok_iff`), and any other
one is reported by the first value that is not (`check_eq_error_iff`).
-/

namespace LoadReport

open Outcomes

/-! ## Values -/

namespace Binary64

variable {value : Binary64} (isFinite : value.isFinite = true)
include isFinite

theorem nonneg_iff : 0 ≤ value ↔ 0 ≤ value.toRat := by
  have zero := ofNat_le_iff (Nat.zero_le _) isFinite
  rwa [Nat.cast_zero] at zero

theorem le_hundred_iff : value ≤ 100 ↔ value.toRat ≤ 100 :=
  le_ofNat_iff (by decide) isFinite

end Binary64

namespace Metric

theorem mem_all (metric : Metric) : metric ∈ Metric.all := by
  cases metric <;> simp [Metric.all]

/-- What a metric can be: exactly from zero on, and for the abort rate up to a hundred. -/
structure InRange (metric : Metric) (value : Binary64) : Prop where
  finite : value.isFinite = true
  nonneg : 0 ≤ value.toRat
  most : metric = .abortRate → value.toRat ≤ 100

/-- What a value that is not in range is reported by. Only numbers from zero on are too large. -/
inductive Refuses (metric : Metric) (scenario : String) (value : Binary64) : Cause → Prop where
  | outOfRange (beyond : ¬ (value.isFinite = true ∧ 0 ≤ value.toRat)) :
      Refuses metric scenario value (.outOfRange scenario metric value)
  | aboveMaximum (finite : value.isFinite = true) (nonneg : 0 ≤ value.toRat)
      (limited : metric = .abortRate) (above : 100 < value.toRat) :
      Refuses metric scenario value (.aboveMaximum scenario metric 100 value)

theorem InRange.zero_le {metric : Metric} {value : Binary64} (inRange : metric.InRange value) :
    0 ≤ value :=
  (Binary64.nonneg_iff inRange.finite).mpr inRange.nonneg

end Metric

namespace Measurement

section

variable (scenario : String) (metric : Metric) (value : Binary64)

theorem bounds_iff : value.isFinite = true ∧ 0 ≤ value ↔ value.isFinite = true ∧ 0 ≤ value.toRat :=
  and_congr_right Binary64.nonneg_iff

theorem checkValue_eq_ok_iff :
    checkValue scenario metric value = .ok () ↔ metric.InRange value := by
  rw [checkValue, check_bind_eq_ok_iff, require_eq_ok_iff, bounds_iff]
  constructor
  · rintro ⟨⟨finite, nonneg⟩, passed⟩
    refine ⟨finite, nonneg, ?_⟩
    rintro rfl
    exact (Binary64.le_hundred_iff finite).mp ((require_eq_ok_iff _ _).mp passed)
  · rintro ⟨finite, nonneg, most⟩
    refine ⟨⟨finite, nonneg⟩, ?_⟩
    cases metric with
    | throughput => rfl
    | p95Latency => rfl
    | abortRate => exact (require_eq_ok_iff _ _).mpr ((Binary64.le_hundred_iff finite).mpr (most rfl))

theorem checkValue_eq_error_iff (failure : Failure) :
    checkValue scenario metric value = .error failure ↔
      ∃ cause, metric.Refuses scenario value cause ∧ failure = Failure.ofCause cause := by
  rw [checkValue, check_bind_eq_error_iff, require_eq_error_iff, require_eq_ok_iff, bounds_iff]
  constructor
  · rintro (⟨beyond, rfl⟩ | ⟨⟨finite, nonneg⟩, refused⟩)
    · exact ⟨_, .outOfRange beyond, rfl⟩
    · cases metric with
      | throughput => cases refused
      | p95Latency => cases refused
      | abortRate =>
        obtain ⟨above, rfl⟩ := (require_eq_error_iff _ _ _).mp refused
        rw [Binary64.le_hundred_iff finite, not_le] at above
        exact ⟨_, .aboveMaximum finite nonneg rfl above, rfl⟩
  · rintro ⟨cause, refuses, rfl⟩
    cases refuses with
    | outOfRange beyond => exact .inl ⟨beyond, rfl⟩
    | aboveMaximum finite nonneg limited above =>
      subst limited
      rw [← not_le, ← Binary64.le_hundred_iff finite] at above
      exact .inr ⟨⟨finite, nonneg⟩, (require_eq_error_iff _ _ _).mpr ⟨above, rfl⟩⟩

end

/-! ## Measurements -/

def InRange (measurement : Measurement) : Prop :=
  ∀ metric, ∀ value ∈ measurement.values.get metric, metric.InRange value

/-- The first of some metrics whose value is not in range gives the cause. -/
def Offends (measurement : Measurement) (metrics : List Metric) (cause : Cause) : Prop :=
  ∃ passed metric rest, metrics = passed ++ metric :: rest ∧
    (∀ other ∈ passed, ∀ value ∈ measurement.values.get other, other.InRange value) ∧
    ∃ value, measurement.values.get metric = some value ∧
      metric.Refuses measurement.scenario value cause

variable (measurement : Measurement)

theorem checkMetrics_eq_ok_iff (metrics : List Metric) :
    measurement.checkMetrics metrics = .ok () ↔
      ∀ metric ∈ metrics, ∀ value ∈ measurement.values.get metric, metric.InRange value := by
  induction metrics with
  | nil => simp [checkMetrics]
  | cons metric rest inductionHypothesis =>
    rw [checkMetrics, List.forall_mem_cons, ← inductionHypothesis]
    cases measured : measurement.values.get metric with
    | none => simp
    | some value => simp [check_bind_eq_ok_iff, checkValue_eq_ok_iff]

theorem check_eq_ok_iff : measurement.check = .ok () ↔ measurement.InRange := by
  rw [check, checkMetrics_eq_ok_iff]
  exact forall_congr' fun metric => by simp only [metric.mem_all, true_implies]

theorem offends_cons_iff (metric : Metric) (rest : List Metric) (cause : Cause) :
    measurement.Offends (metric :: rest) cause ↔
      (∃ value, measurement.values.get metric = some value ∧
          metric.Refuses measurement.scenario value cause) ∨
        (∀ value ∈ measurement.values.get metric, metric.InRange value) ∧
          measurement.Offends rest cause := by
  rw [Offends, exists_place_cons_iff fun passed metric =>
    (∀ other ∈ passed, ∀ value ∈ measurement.values.get other, other.InRange value) ∧
      ∃ value, measurement.values.get metric = some value ∧
        metric.Refuses measurement.scenario value cause]
  simp only [Offends, List.forall_mem_cons, List.not_mem_nil, false_implies, implies_true, true_and]
  refine or_congr_right ?_
  constructor
  · rintro ⟨passed, other, after, split, ⟨first, others⟩, offence⟩
    exact ⟨first, passed, other, after, split, others, offence⟩
  · rintro ⟨first, passed, other, after, split, others, offence⟩
    exact ⟨passed, other, after, split, ⟨first, others⟩, offence⟩

theorem checkMetrics_eq_error_iff (metrics : List Metric) (failure : Failure) :
    measurement.checkMetrics metrics = .error failure ↔
      ∃ cause, measurement.Offends metrics cause ∧ failure = Failure.ofCause cause := by
  induction metrics with
  | nil => simp [checkMetrics, Offends]
  | cons metric rest inductionHypothesis =>
    simp only [offends_cons_iff, or_and_right, exists_or, and_assoc, exists_and_left,
      ← inductionHypothesis]
    rw [checkMetrics]
    cases measured : measurement.values.get metric with
    | none => simp
    | some value =>
      simp [check_bind_eq_error_iff, checkValue_eq_error_iff, checkValue_eq_ok_iff]

/-- A measurement that is not in range is reported by the first of its values that is not. -/
theorem check_eq_error_iff (failure : Failure) :
    measurement.check = .error failure ↔
      ∃ cause, measurement.Offends Metric.all cause ∧ failure = Failure.ofCause cause :=
  measurement.checkMetrics_eq_error_iff Metric.all failure

end Measurement

end LoadReport
