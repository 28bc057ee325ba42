import LoadReport.Config.Basic
import LoadReport.Proofs.Measurement

/-!
# What loading finds

Loading a list of scenarios is loading each of them, up to the first that fails. A scenario that loads
has either a measurement, which bears its label, or a missing path; the dataset of a section is the
measurements of its scenarios in order.
-/

namespace LoadReport

open Outcomes

theorem FileTree.exists_bytes_of_read {tree : FileTree} {path : Path} {results : Results}
    (read : tree.readResults path = .ok results) :
    ∃ bytes, tree.find path = .ok (.file bytes) := by
  unfold FileTree.readResults at read
  split at read
  next => cases read
  next => cases read
  next bytes stands => exact ⟨bytes, stands⟩

/-! ## Scenarios -/

namespace Scenario

/-- The measurement that is found for a scenario, if there is one. -/
def found? (tree : FileTree) (scenario : Scenario) : Option Measurement :=
  match (scenario.load tree).outcome with
  | .ok (.found measurement) => some measurement
  | _ => none

/-- The path at which nothing is found for a scenario, if there is one. -/
def missing? (tree : FileTree) (scenario : Scenario) : Option Path :=
  match (scenario.load tree).outcome with
  | .ok (.absent path) => some path
  | _ => none

/-- Whether a measurement is found for a scenario. -/
def isFound (tree : FileTree) (scenario : Scenario) : Bool :=
  (scenario.found? tree).isSome

/-- The value of a metric that is found for a scenario, if there is one. -/
def value? (tree : FileTree) (metric : Metric) (scenario : Scenario) : Option Binary64 :=
  (scenario.found? tree).bind fun measurement => measurement.values.get metric

theorem accept_eq_ok_iff (scenario : Scenario) (measurement : Measurement) (finding : Finding) :
    scenario.accept measurement = .ok finding ↔
      measurement.check = .ok () ∧ finding = .found measurement := by
  rw [accept, check_bind_eq_ok_iff, during_eq_ok_iff]
  constructor
  · intro accepted
    obtain ⟨passed, equal⟩ := accepted
    cases equal
    exact ⟨passed, rfl⟩
  · intro accepted
    obtain ⟨passed, rfl⟩ := accepted
    exact ⟨passed, rfl⟩

theorem load_embedded (tree : FileTree) (label : String) (values : Values) :
    load tree ⟨label, .embedded values⟩ =
      ⟨[], accept ⟨label, .embedded values⟩ ⟨label, values⟩⟩ :=
  rfl

theorem load_missing {tree : FileTree} {path : Path} {fault : FileFault}
    (nowhere : tree.find path = .error fault) (label : String) :
    load tree ⟨label, .file path⟩ = ⟨[.resultsMissing label path], .ok (.absent path)⟩ := by
  simp [load, FileTree.contains, nowhere, Except.isOk, Except.toBool]

theorem load_unread {tree : FileTree} {path : Path} {node : FileTree.Node} {failure : Failure}
    (stands : tree.find path = .ok node) (failed : tree.readResults path = .error failure)
    (label : String) : load tree ⟨label, .file path⟩ = ⟨[], .error failure⟩ := by
  simp [load, FileTree.contains, stands, failed, Except.isOk, Except.toBool]

theorem load_read {tree : FileTree} {path : Path} {results : Results}
    (read : tree.readResults path = .ok results) (label : String) :
    load tree ⟨label, .file path⟩ =
      ⟨[.resultsLoaded label results],
        accept ⟨label, .file path⟩ (results.toMeasurement label)⟩ := by
  obtain ⟨bytes, stands⟩ := FileTree.exists_bytes_of_read read
  simp [load, FileTree.contains, stands, read, Except.isOk, Except.toBool]

/-- A measurement is loaded from a file if the file is read and what it holds is in range. -/
theorem load_file_found_iff (tree : FileTree) (label : String) (path : Path)
    (measurement : Measurement) :
    (load tree ⟨label, .file path⟩).outcome = .ok (.found measurement) ↔
      ∃ results, tree.readResults path = .ok results ∧
        measurement = results.toMeasurement label ∧ measurement.check = .ok () := by
  cases read : tree.readResults path with
  | ok results =>
    rw [load_read read, accept_eq_ok_iff]
    constructor
    · intro accepted
      obtain ⟨passed, equal⟩ := accepted
      cases equal
      exact ⟨results, rfl, rfl, passed⟩
    · intro found
      obtain ⟨_, equal, rfl, passed⟩ := found
      cases equal
      exact ⟨passed, rfl⟩
  | error failure =>
    refine ⟨fun loaded => ?_, fun ⟨_, impossible, _⟩ => nomatch impossible⟩
    cases stands : tree.find path with
    | error fault =>
      rw [load_missing stands] at loaded
      cases loaded
    | ok node =>
      rw [load_unread stands read] at loaded
      cases loaded

/-- What is found for a scenario bears the scenario's label and is in range. -/
theorem load_found {tree : FileTree} {scenario : Scenario} {measurement : Measurement}
    (loaded : (scenario.load tree).outcome = .ok (.found measurement)) :
    measurement.scenario = scenario.label ∧ measurement.check = .ok () := by
  unfold load at loaded
  split at loaded
  next values =>
    obtain ⟨passed, equal⟩ := (accept_eq_ok_iff _ _ _).mp loaded
    cases equal
    exact ⟨rfl, passed⟩
  next path =>
    -- A path that leads nowhere loads too, but not as a measurement.
    split at loaded
    · split at loaded
      next failure => cases loaded
      next results =>
        obtain ⟨passed, equal⟩ := (accept_eq_ok_iff _ _ _).mp loaded
        cases equal
        exact ⟨rfl, passed⟩
    · cases loaded

theorem found?_eq_some_iff (tree : FileTree) (scenario : Scenario) (measurement : Measurement) :
    scenario.found? tree = some measurement ↔
      (scenario.load tree).outcome = .ok (.found measurement) := by
  unfold found?
  split
  next found loaded => simp [loaded]
  next other => simp only [reduceCtorEq, false_iff]; exact other measurement

theorem loadAll_outcome_eq_ok_iff (tree : FileTree) (scenarios : List Scenario)
    (findings : List Finding) :
    (loadAll tree scenarios).outcome = .ok findings ↔
      List.Forall₂ (fun scenario finding => (scenario.load tree).outcome = .ok finding)
        scenarios findings := by
  induction scenarios generalizing findings with
  | nil => cases findings <;> simp [loadAll]
  | cons scenario rest inductionHypothesis =>
    rcases loading : scenario.load tree with ⟨events, outcome⟩
    cases outcome with
    | error failure => cases findings <;> simp [loadAll, loading]
    | ok finding =>
      cases remaining : (loadAll tree rest).outcome with
      | error failure =>
        cases findings <;> simp [loadAll, loading, remaining, ← inductionHypothesis]
      | ok others =>
        cases findings <;> simp [loadAll, loading, remaining, ← inductionHypothesis]

theorem measurements_of_loads {tree : FileTree} {scenarios : List Scenario}
    {findings : List Finding}
    (loads : List.Forall₂ (fun scenario finding => (scenario.load tree).outcome = .ok finding)
      scenarios findings) :
    findings.filterMap Finding.measurement? = scenarios.filterMap (found? tree) := by
  refine (filterMap_eq_of_forall₂ (loads.imp ?_)).symm
  intro scenario finding loaded
  simp only [found?, loaded]
  cases finding <;> rfl

theorem absentPaths_of_loads {tree : FileTree} {scenarios : List Scenario} {findings : List Finding}
    (loads : List.Forall₂ (fun scenario finding => (scenario.load tree).outcome = .ok finding)
      scenarios findings) :
    findings.filterMap Finding.absentPath? = scenarios.filterMap (missing? tree) := by
  refine (filterMap_eq_of_forall₂ (loads.imp ?_)).symm
  intro scenario finding loaded
  simp only [missing?, loaded]
  cases finding <;> rfl

end Scenario

namespace Dataset

theorem checkAll_eq_ok_iff (earlier : List String) (measurements : List Measurement) :
    checkAll earlier measurements = .ok () ↔
      Apart (· ≠ ·) earlier (measurements.map Measurement.scenario) ∧
        ∀ measurement ∈ measurements, measurement.check = .ok () := by
  induction measurements generalizing earlier with
  | nil => simp [checkAll]
  | cons measurement rest inductionHypothesis =>
    rw [checkAll, check_bind_eq_ok_iff, check_bind_eq_ok_iff, require_eq_ok_iff, inductionHypothesis,
      List.map_cons, apart_cons_iff, List.forall_mem_ne', List.forall_mem_cons]
    tauto

theorem ofFindings_eq_ok_iff (findings : List Finding) (dataset : Dataset) (absent : List Path) :
    ofFindings findings = .ok (dataset, absent) ↔
      checkAll [] (findings.filterMap Finding.measurement?) = .ok () ∧
        dataset = ⟨findings.filterMap Finding.measurement?⟩ ∧
        absent = findings.filterMap Finding.absentPath? := by
  simp only [ofFindings, ofMeasurements, bind_eq_ok_iff]
  constructor
  · intro made
    obtain ⟨_, ⟨_, accepted, collected⟩, equal⟩ := made
    cases collected
    cases equal
    exact ⟨accepted, rfl, rfl⟩
  · intro made
    obtain ⟨accepted, rfl, rfl⟩ := made
    exact ⟨_, ⟨_, accepted, rfl⟩, rfl⟩

end Dataset

namespace Section

variable (tree : FileTree) (part : Section)

/-- The measurements that are found for the scenarios of a section, in order. -/
def found : List Measurement :=
  part.scenarios.filterMap (Scenario.found? tree)

/-- The paths at which nothing is found for the scenarios of a section, in order. -/
def missing : List Path :=
  part.scenarios.filterMap (Scenario.missing? tree)

/-- Whether there is anything to draw: a measurement is found for at least one scenario. -/
def isLive : Bool :=
  part.scenarios.any (Scenario.isFound tree)

theorem found_eq_nil_iff : part.found tree = [] ↔ part.isLive tree = false := by
  simp [found, isLive, Scenario.isFound, List.filterMap_eq_nil_iff]

theorem labels_of_found :
    (part.found tree).map Measurement.scenario =
      (part.scenarios.filter (Scenario.isFound tree)).map Scenario.label := by
  -- Both sides visit the scenarios once, so that they can be compared scenario by scenario.
  rw [found, List.map_filterMap, ← List.filterMap_eq_map, ← List.filterMap_eq_filter,
    List.filterMap_filterMap]
  apply List.filterMap_congr
  intro scenario _
  cases found : scenario.found? tree with
  | none => simp [Scenario.isFound, found, Option.guard]
  | some measurement =>
    have loaded := (Scenario.found?_eq_some_iff tree scenario measurement).mp found
    simp [Scenario.isFound, found, Option.guard, (Scenario.load_found loaded).1]

theorem values_of_found (metric : Metric) :
    (part.found tree).filterMap (fun measurement =>
        (measurement.values.get metric).map (measurement.scenario, ·)) =
      part.scenarios.filterMap fun scenario =>
        (scenario.value? tree metric).map (scenario.label, ·) := by
  rw [found, List.filterMap_filterMap]
  apply List.filterMap_congr
  intro scenario _
  cases found : scenario.found? tree with
  | none => simp [Scenario.value?, found]
  | some measurement =>
    have loaded := (Scenario.found?_eq_some_iff tree scenario measurement).mp found
    simp [Scenario.value?, found, (Scenario.load_found loaded).1]

end Section

end LoadReport
