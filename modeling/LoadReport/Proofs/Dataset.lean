import LoadReport.Proofs.Loading

/-!
# What datasets admit

A dataset is made of measurements that bear labels of their own and have only values in range
(`Admissible`). Of any others, the first one that repeats a label or has a value out of range is
reported (`checkAll_eq_error_iff`), by its label if that is taken, and else by the first of its values
that is not in range (`Measurement.check_eq_error_iff`). In a dataset, a label tells a measurement
(`Dataset.filter_eq_toList_find?`).
-/

namespace LoadReport

open Outcomes

/-! ## Datasets -/

namespace Dataset

/-- Measurements with labels of their own, all of them in range. -/
structure Admissible (measurements : List Measurement) : Prop where
  distinct : (measurements.map Measurement.scenario).Nodup
  inRange : ∀ measurement ∈ measurements, measurement.InRange

/-- What a measurement is reported by where some labels are taken. Its label comes before its values. -/
inductive Refuses (taken : List String) (measurement : Measurement) : Cause → Prop where
  | duplicate (repeated : measurement.scenario ∈ taken) :
      Refuses taken measurement (.duplicateScenario measurement.scenario)
  | offence {cause : Cause} (fresh : measurement.scenario ∉ taken)
      (offends : measurement.Offends Metric.all cause) : Refuses taken measurement cause

theorem refuses_reverse_iff (taken : List String) (measurement : Measurement) (cause : Cause) :
    Refuses taken.reverse measurement cause ↔ Refuses taken measurement cause := by
  constructor
  · rintro (repeated | ⟨fresh, offends⟩)
    · exact .duplicate (List.mem_reverse.mp repeated)
    · exact .offence (List.mem_reverse.not.mp fresh) offends
  · rintro (repeated | ⟨fresh, offends⟩)
    · exact .duplicate (List.mem_reverse.mpr repeated)
    · exact .offence (List.mem_reverse.not.mpr fresh) offends

theorem refuses_iff (taken : List String) (measurement : Measurement) (failure : Failure) :
    (require (measurement.scenario ∉ taken) (.duplicateScenario measurement.scenario) >>= fun _ =>
        measurement.check) = .error failure ↔
      ∃ cause, Refuses taken measurement cause ∧ failure = Failure.ofCause cause := by
  rw [check_bind_eq_error_iff, require_eq_error_iff, require_eq_ok_iff,
    measurement.check_eq_error_iff, not_not]
  constructor
  · rintro (⟨repeated, rfl⟩ | ⟨fresh, cause, offends, rfl⟩)
    · exact ⟨_, .duplicate repeated, rfl⟩
    · exact ⟨cause, .offence fresh offends, rfl⟩
  · rintro ⟨cause, repeated | ⟨fresh, offends⟩, rfl⟩
    · exact .inl ⟨repeated, rfl⟩
    · exact .inr ⟨fresh, cause, offends, rfl⟩

/-- Measurements are refused for the first of them that is, behind the labels of those in front of it. -/
theorem checkAll_eq_error_iff (taken : List String) (measurements : List Measurement)
    (failure : Failure) :
    checkAll taken measurements = .error failure ↔
      ∃ before refused after, measurements = before ++ refused :: after ∧
        checkAll taken before = .ok () ∧
        ∃ cause, Refuses ((before.map Measurement.scenario).reverse ++ taken) refused cause ∧
          failure = Failure.ofCause cause := by
  induction measurements generalizing taken with
  | nil => simp [checkAll]
  | cons measurement rest inductionHypothesis =>
    have step (others : List Measurement) : checkAll taken (measurement :: others) =
        (require (measurement.scenario ∉ taken) (.duplicateScenario measurement.scenario) >>= fun _ =>
            measurement.check) >>= fun _ =>
          checkAll (measurement.scenario :: taken) others := by
      rw [checkAll, bind_assoc]
    rw [exists_place_cons_iff fun before refused => checkAll taken before = .ok () ∧
      ∃ cause, Refuses ((before.map Measurement.scenario).reverse ++ taken) refused cause ∧
        failure = Failure.ofCause cause]
    rw [step, check_bind_eq_error_iff, refuses_iff, inductionHypothesis]
    simp only [step, check_bind_eq_ok_iff _ (checkAll _ _), List.map_cons, List.reverse_cons,
      List.append_assoc, List.singleton_append]
    constructor
    · rintro (report | ⟨passes, before, refused, after, split, passed, report⟩)
      · exact .inl ⟨rfl, report⟩
      · exact .inr ⟨before, refused, after, split, ⟨passes, passed⟩, report⟩
    · rintro (⟨_, report⟩ | ⟨before, refused, after, split, ⟨passes, passed⟩, report⟩)
      · exact .inl report
      · exact .inr ⟨passes, before, refused, after, split, passed, report⟩

theorem checkAll_eq_ok_iff_admissible (measurements : List Measurement) :
    checkAll [] measurements = .ok () ↔ Admissible measurements := by
  rw [checkAll_eq_ok_iff, apart_nil_iff]
  simp only [Measurement.check_eq_ok_iff]
  constructor
  · rintro ⟨distinct, inRange⟩
    exact ⟨distinct, inRange⟩
  · rintro ⟨distinct, inRange⟩
    exact ⟨distinct, inRange⟩

theorem ofMeasurements_eq_ok_iff (measurements : List Measurement) (dataset : Dataset) :
    ofMeasurements measurements = .ok dataset ↔
      Admissible measurements ∧ dataset.measurements = measurements := by
  rw [ofMeasurements, check_bind_eq_ok_iff, checkAll_eq_ok_iff_admissible]
  constructor
  · rintro ⟨admissible, made⟩
    cases made
    exact ⟨admissible, rfl⟩
  · rintro ⟨admissible, rfl⟩
    exact ⟨admissible, rfl⟩

theorem ofMeasurements_eq_error_iff (measurements : List Measurement) (failure : Failure) :
    ofMeasurements measurements = .error failure ↔
      ∃ before refused after cause, measurements = before ++ refused :: after ∧
        Admissible before ∧ Refuses (before.map Measurement.scenario) refused cause ∧
        failure = Failure.ofCause cause := by
  have made : ¬ (pure ⟨measurements⟩ : Except Failure Dataset) = .error failure := nofun
  rw [ofMeasurements, check_bind_eq_error_iff, or_iff_left fun both => made both.2,
    checkAll_eq_error_iff]
  simp only [checkAll_eq_ok_iff_admissible, List.append_nil, refuses_reverse_iff, exists_and_left]

/-! ## Lookups -/

theorem filter_eq_toList_find? {measurements : List Measurement}
    (distinct : (measurements.map Measurement.scenario).Nodup) (label : String) :
    (measurements.filter fun measurement => measurement.scenario = label) =
      (measurements.find? fun measurement => measurement.scenario = label).toList := by
  induction measurements with
  | nil => rfl
  | cons measurement rest inductionHypothesis =>
    rw [List.map_cons, List.nodup_cons] at distinct
    obtain ⟨fresh, others⟩ := distinct
    by_cases same : measurement.scenario = label
    · -- No other measurement has the label.
      have none : (rest.filter fun other => other.scenario = label) = [] := by
        rw [List.filter_eq_nil_iff]
        intro other member equal
        rw [same, ← of_decide_eq_true equal] at fresh
        exact fresh (List.mem_map_of_mem member)
      simp [same, none]
    · simp [same, inductionHypothesis others]

theorem get?_eq_none_iff (dataset : Dataset) (label : String) :
    dataset.get? label = none ↔ label ∉ dataset.labels := by
  simp [get?, labels, List.find?_eq_none]

/-- Exactly the measurements with labels of their own and with values in range make up a dataset, which
keeps them in order, and in which a label leads to the one measurement that has it. Of all others, the
first that repeats a label or has a value out of range is reported: by its label if that is taken, and
else by the first of its values. -/
theorem first_refused_measurement_is_reported (measurements : List Measurement) :
    (∀ dataset, ofMeasurements measurements = .ok dataset ↔
        Admissible measurements ∧ dataset.measurements = measurements) ∧
      (∀ failure, ofMeasurements measurements = .error failure ↔
        ∃ before refused after cause, measurements = before ++ refused :: after ∧
          Admissible before ∧ Refuses (before.map Measurement.scenario) refused cause ∧
          failure = Failure.ofCause cause) ∧
      ∀ dataset, ofMeasurements measurements = .ok dataset → ∀ label,
        (measurements.filter fun measurement => measurement.scenario = label) =
            (dataset.get? label).toList ∧
          (dataset.get? label = none ↔ label ∉ dataset.labels) := by
  refine ⟨ofMeasurements_eq_ok_iff measurements, ofMeasurements_eq_error_iff measurements, ?_⟩
  intro dataset made label
  obtain ⟨admissible, rfl⟩ := (ofMeasurements_eq_ok_iff measurements dataset).mp made
  exact ⟨filter_eq_toList_find? admissible.distinct label, get?_eq_none_iff dataset label⟩

def uniformRun : Measurement :=
  ⟨"Uniform", ⟨some 326.5, none, some 1.79⟩⟩

def hotSpotRun : Measurement :=
  ⟨"Hot-Spot", ⟨some 527.2, none, some 87.4⟩⟩

/-- Two of its values are out of range. -/
def brokenRun : Measurement :=
  ⟨"Hot-Spot", ⟨some 527.2, some .nan, some 140⟩⟩

/-- Out of range, and under a label that may be taken. -/
def brokenRepetition : Measurement :=
  ⟨"Uniform", ⟨none, none, some 140⟩⟩

/-- Behind a value out of range a repetition does not show, nor the other way round. -/
theorem broken_runs_hide_one_another :
    ofMeasurements [uniformRun, brokenRun, brokenRepetition] =
        .error (Failure.ofCause (.outOfRange "Hot-Spot" .p95Latency .nan)) ∧
      ofMeasurements [uniformRun, brokenRepetition, brokenRun] =
        .error (Failure.ofCause (.duplicateScenario "Uniform")) ∧
      ∃ dataset, ofMeasurements [uniformRun, hotSpotRun] = .ok dataset ∧
        dataset.get? "Hot-Spot" = some hotSpotRun ∧ dataset.get? "Mixed" = none := by
  have accepted : ofMeasurements [uniformRun] = .ok ⟨[uniformRun]⟩ := by decide +kernel
  have alone := (((first_refused_measurement_is_reported [uniformRun]).1 _).mp accepted).1
  have inRange : Metric.throughput.InRange 527.2 :=
    ⟨by decide +kernel, by decide +kernel, nofun⟩
  have made : ofMeasurements [uniformRun, hotSpotRun] = .ok ⟨[uniformRun, hotSpotRun]⟩ := by
    decide +kernel
  have lookups := (first_refused_measurement_is_reported _).2.2 _ made
  refine ⟨?_, ?_, _, made, ?_, ?_⟩
  · refine ((first_refused_measurement_is_reported _).2.1 _).mpr
      ⟨[uniformRun], brokenRun, [brokenRepetition], _, rfl, alone, .offence (by decide) ?_, rfl⟩
    refine ⟨[.throughput], .p95Latency, [.abortRate], rfl, ?_, .nan, rfl, .outOfRange nofun⟩
    intro other member value measured
    obtain rfl := List.mem_singleton.mp member
    obtain rfl := Option.some.inj (measured : some (527.2 : Binary64) = some value)
    exact inRange
  · exact ((first_refused_measurement_is_reported _).2.1 _).mpr
      ⟨[uniformRun], brokenRepetition, [brokenRun], _, rfl, alone, .duplicate (by decide), rfl⟩
  · exact Option.toList_eq_singleton_iff.mp (lookups "Hot-Spot").1.symm
  · exact (lookups "Mixed").2.mpr (by decide)

end Dataset

end LoadReport
