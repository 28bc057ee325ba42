import LoadReport.Proofs.Loading

/-!
# Loading in order

What loading a single scenario comes to is said once, in `LoadsAs`. Loading a list visits the
scenarios in order, up to the first that fails, and logs what each of the visited ones logs
(`loadAll_of_loads`, `loadAll_of_first_failure`). The dataset of what is loaded keeps the order and
loses nothing (`Collects`).
-/

namespace LoadReport

open Outcomes

namespace Scenario

/-- What loading a scenario may come to, with the events on the way: values that are embedded are
only checked, a path that leads nowhere is no failure, and what has been read is logged before it is
checked. -/
inductive LoadsAs (tree : FileTree) : Scenario → Loading Finding → Prop where
  | embedded {label : String} {values : Values}
      (passed : Measurement.check ⟨label, values⟩ = .ok ()) :
      LoadsAs tree ⟨label, .embedded values⟩ ⟨[], .ok (.found ⟨label, values⟩)⟩
  | embeddedRefused {label : String} {values : Values} {failure : Failure}
      (refused : Measurement.check ⟨label, values⟩ = .error failure) :
      LoadsAs tree ⟨label, .embedded values⟩ ⟨[], .error (failure.within (.metricsOf label))⟩
  | absent {label : String} {path : Path} {fault : FileFault}
      (nowhere : tree.find path = .error fault) :
      LoadsAs tree ⟨label, .file path⟩ ⟨[.resultsMissing label path], .ok (.absent path)⟩
  | unread {label : String} {path : Path} {node : FileTree.Node} {failure : Failure}
      (stands : tree.find path = .ok node) (failed : tree.readResults path = .error failure) :
      LoadsAs tree ⟨label, .file path⟩ ⟨[], .error failure⟩
  | read {label : String} {path : Path} {results : Results}
      (read : tree.readResults path = .ok results)
      (passed : (results.toMeasurement label).check = .ok ()) :
      LoadsAs tree ⟨label, .file path⟩
        ⟨[.resultsLoaded label results], .ok (.found (results.toMeasurement label))⟩
  | readRefused {label : String} {path : Path} {results : Results} {failure : Failure}
      (read : tree.readResults path = .ok results)
      (refused : (results.toMeasurement label).check = .error failure) :
      LoadsAs tree ⟨label, .file path⟩
        ⟨[.resultsLoaded label results], .error (failure.within (.metricsOf label))⟩

theorem accept_of_passed {scenario : Scenario} {measurement : Measurement}
    (passed : measurement.check = .ok ()) :
    scenario.accept measurement = .ok (.found measurement) :=
  (accept_eq_ok_iff _ _ _).mpr ⟨passed, rfl⟩

theorem accept_of_refused {scenario : Scenario} {measurement : Measurement} {failure : Failure}
    (refused : measurement.check = .error failure) :
    scenario.accept measurement = .error (failure.within (.metricsOf scenario.label)) := by
  rw [accept, refused]
  rfl

theorem loadsAs (tree : FileTree) (scenario : Scenario) :
    LoadsAs tree scenario (scenario.load tree) := by
  obtain ⟨label, source⟩ := scenario
  cases source with
  | embedded values =>
    rw [load_embedded]
    cases checked : Measurement.check ⟨label, values⟩ with
    | error failure =>
      rw [accept_of_refused checked]
      exact .embeddedRefused checked
    | ok =>
      rw [accept_of_passed checked]
      exact .embedded checked
  | file path =>
    cases stands : tree.find path with
    | error fault =>
      rw [load_missing stands]
      exact .absent stands
    | ok node =>
      cases read : tree.readResults path with
      | error failure =>
        rw [load_unread stands read]
        exact .unread stands read
      | ok results =>
        rw [load_read read]
        cases checked : (results.toMeasurement label).check with
        | error failure =>
          rw [accept_of_refused checked]
          exact .readRefused read checked
        | ok =>
          rw [accept_of_passed checked]
          exact .read read checked

/-! ## Lists of scenarios -/

/-- The scenario does not fail to load, though nothing may be found for it. -/
def Loads (tree : FileTree) (scenario : Scenario) : Prop :=
  ∃ finding, (scenario.load tree).outcome = .ok finding

/-- The events of loading a scenario. -/
def logged (tree : FileTree) (scenario : Scenario) : List Event :=
  (scenario.load tree).events

variable {tree : FileTree}

theorem loadAll_cons_of_loads {scenario : Scenario} {finding : Finding}
    (loaded : (scenario.load tree).outcome = .ok finding) (rest : List Scenario) :
    loadAll tree (scenario :: rest) =
      ⟨scenario.logged tree ++ (loadAll tree rest).events,
        (finding :: ·) <$> (loadAll tree rest).outcome⟩ := by
  rcases loading : scenario.load tree with ⟨events, outcome⟩
  rw [loading] at loaded
  subst loaded
  simp only [loadAll, logged, loading]

theorem loadAll_cons_of_fails {scenario : Scenario} {failure : Failure}
    (failed : (scenario.load tree).outcome = .error failure) (rest : List Scenario) :
    loadAll tree (scenario :: rest) = ⟨scenario.logged tree, .error failure⟩ := by
  rcases loading : scenario.load tree with ⟨events, outcome⟩
  rw [loading] at failed
  subst failed
  simp only [loadAll, logged, loading]

theorem loadAll_of_loads {scenarios : List Scenario}
    (load : ∀ scenario ∈ scenarios, scenario.Loads tree) :
    ∃ findings, loadAll tree scenarios = ⟨scenarios.flatMap (logged tree), .ok findings⟩ := by
  induction scenarios with
  | nil => exact ⟨[], rfl⟩
  | cons scenario rest inductionHypothesis =>
    obtain ⟨⟨finding, loaded⟩, others⟩ := List.forall_mem_cons.mp load
    obtain ⟨findings, remaining⟩ := inductionHypothesis others
    refine ⟨finding :: findings, ?_⟩
    rw [loadAll_cons_of_loads loaded, remaining]
    rfl

theorem loadAll_of_first_failure {before : List Scenario}
    (load : ∀ scenario ∈ before, scenario.Loads tree) {failing : Scenario} {failure : Failure}
    (failed : (failing.load tree).outcome = .error failure) (after : List Scenario) :
    loadAll tree (before ++ failing :: after) =
      ⟨(before ++ [failing]).flatMap (logged tree), .error failure⟩ := by
  induction before with
  | nil =>
    rw [List.nil_append, loadAll_cons_of_fails failed]
    simp
  | cons scenario rest inductionHypothesis =>
    obtain ⟨⟨finding, loaded⟩, others⟩ := List.forall_mem_cons.mp load
    rw [List.cons_append, loadAll_cons_of_loads loaded, inductionHypothesis others]
    rfl

/-- All scenarios load, or there is a first one that fails. -/
theorem loads_or_first_failure (tree : FileTree) (scenarios : List Scenario) :
    (∀ scenario ∈ scenarios, scenario.Loads tree) ∨
      ∃ before failing after failure, scenarios = before ++ failing :: after ∧
        (∀ scenario ∈ before, scenario.Loads tree) ∧
        (failing.load tree).outcome = .error failure := by
  induction scenarios with
  | nil => exact .inl fun _ member => absurd member List.not_mem_nil
  | cons scenario rest inductionHypothesis =>
    cases loaded : (scenario.load tree).outcome with
    | error failure =>
      exact .inr ⟨[], scenario, rest, failure, rfl, fun _ member => absurd member List.not_mem_nil,
        loaded⟩
    | ok finding =>
      obtain load | ⟨before, failing, after, failure, rfl, load, failed⟩ := inductionHypothesis
      · exact .inl (List.forall_mem_cons.mpr ⟨⟨finding, loaded⟩, load⟩)
      · exact .inr ⟨scenario :: before, failing, after, failure, rfl,
          List.forall_mem_cons.mpr ⟨⟨finding, loaded⟩, load⟩, failed⟩

end Scenario

/-! ## Datasets of what is loaded -/

namespace Dataset

/-- The dataset and the paths are what is found and what is not for scenarios that load. Everything
is kept in order and nothing occurs in between. -/
structure Collects (tree : FileTree) (scenarios : List Scenario) (dataset : Dataset)
    (absent : List Path) : Prop where
  measurements : dataset.measurements = scenarios.filterMap (Scenario.found? tree)
  labels : dataset.labels = (scenarios.filter (Scenario.isFound tree)).map Scenario.label
  paths : absent = scenarios.filterMap (Scenario.missing? tree)
  size : dataset.size + absent.length = scenarios.length
  inRange : ∀ measurement ∈ dataset.measurements, measurement.check = .ok ()
  /-- A measurement from a file has all metrics. -/
  fromFiles : ∀ scenario ∈ scenarios, ∀ path, scenario.source = .file path →
    ∀ measurement, (scenario.load tree).outcome = .ok (.found measurement) →
      measurement ∈ dataset.measurements ∧
        ∀ metric, (measurement.values.get metric).isSome = true

theorem length_measurements_add_absent (findings : List Finding) :
    (findings.filterMap Finding.measurement?).length +
      (findings.filterMap Finding.absentPath?).length = findings.length := by
  induction findings with
  | nil => rfl
  | cons finding rest inductionHypothesis =>
    cases finding with
    | found measurement =>
      have isFound : Finding.measurement? (.found measurement) = some measurement := rfl
      have notAbsent : Finding.absentPath? (.found measurement) = none := rfl
      rw [List.filterMap_cons_some isFound, List.filterMap_cons_none notAbsent, List.length_cons,
        List.length_cons, ← inductionHypothesis]
      omega
    | absent path =>
      have notFound : Finding.measurement? (.absent path) = none := rfl
      have isAbsent : Finding.absentPath? (.absent path) = some path := rfl
      rw [List.filterMap_cons_none notFound, List.filterMap_cons_some isAbsent, List.length_cons,
        List.length_cons, ← inductionHypothesis]
      omega

theorem exists_collects {tree : FileTree} {scenarios : List Scenario} {findings : List Finding}
    (loads : List.Forall₂ (fun scenario finding => (scenario.load tree).outcome = .ok finding)
      scenarios findings)
    (distinct : (scenarios.map Scenario.label).Nodup) :
    ∃ dataset absent, ofFindings findings = .ok (dataset, absent) ∧
      Collects tree scenarios dataset absent := by
  have measurements := Scenario.measurements_of_loads loads
  have absent := Scenario.absentPaths_of_loads loads
  have labels : (scenarios.filterMap (Scenario.found? tree)).map Measurement.scenario =
      (scenarios.filter (Scenario.isFound tree)).map Scenario.label :=
    Section.labels_of_found tree ⟨scenarios, []⟩
  have inRange : ∀ measurement ∈ scenarios.filterMap (Scenario.found? tree),
      measurement.check = .ok () := by
    intro measurement member
    obtain ⟨scenario, _, found⟩ := List.mem_filterMap.mp member
    exact (Scenario.load_found ((Scenario.found?_eq_some_iff _ _ _).mp found)).2
  -- Labels of what is found are some of all labels, which differ.
  have apart : ((scenarios.filterMap (Scenario.found? tree)).map Measurement.scenario).Nodup := by
    rw [labels]
    exact (List.filter_sublist.map Scenario.label).nodup distinct
  refine ⟨⟨scenarios.filterMap (Scenario.found? tree)⟩,
    scenarios.filterMap (Scenario.missing? tree), ?_, rfl, labels, rfl, ?_, inRange, ?_⟩
  · rw [ofFindings_eq_ok_iff, measurements, absent, checkAll_eq_ok_iff]
    exact ⟨⟨(apart_nil_iff _).mpr apart, inRange⟩, rfl, rfl⟩
  · have total := length_measurements_add_absent findings
    rw [measurements, absent, ← loads.length_eq] at total
    exact total
  · intro scenario member path source measurement loaded
    refine ⟨List.mem_filterMap.mpr ⟨scenario, member, ?_⟩, fun metric => ?_⟩
    · exact (Scenario.found?_eq_some_iff _ _ _).mpr loaded
    · obtain ⟨label, other⟩ := scenario
      obtain rfl : other = .file path := source
      obtain ⟨results, _, rfl, _⟩ := (Scenario.load_file_found_iff tree label path _).mp loaded
      cases metric <;> rfl

end Dataset

namespace Scenario

/-- Loading gives one finding for each scenario, in order, unless some scenario fails; then it gives
the failure of the first that does, and has logged what the scenarios up to it log. If the labels
differ, what has been loaded makes up a dataset. -/
theorem loading_stops_at_first_failure (tree : FileTree) (scenarios : List Scenario) :
    (∀ scenario, LoadsAs tree scenario (scenario.load tree)) ∧
      ((∃ findings, (loadAll tree scenarios).outcome = .ok findings) ↔
        ∀ scenario ∈ scenarios, scenario.Loads tree) ∧
      (∀ findings, (loadAll tree scenarios).outcome = .ok findings →
        List.Forall₂ (fun scenario finding => (scenario.load tree).outcome = .ok finding)
            scenarios findings ∧
          (loadAll tree scenarios).events = scenarios.flatMap (logged tree) ∧
          ((scenarios.map Scenario.label).Nodup →
            ∃ dataset absent, Dataset.ofFindings findings = .ok (dataset, absent) ∧
              Dataset.Collects tree scenarios dataset absent)) ∧
      ∀ failure, (loadAll tree scenarios).outcome = .error failure →
        ∃ before failing after, scenarios = before ++ failing :: after ∧
          (∀ scenario ∈ before, scenario.Loads tree) ∧
          (failing.load tree).outcome = .error failure ∧
          (loadAll tree scenarios).events = (before ++ [failing]).flatMap (logged tree) := by
  refine ⟨loadsAs tree, ?_⟩
  obtain load | ⟨before, failing, after, failure, rfl, load, failed⟩ :=
    loads_or_first_failure tree scenarios
  · obtain ⟨findings, loading⟩ := loadAll_of_loads load
    have outcome : (loadAll tree scenarios).outcome = .ok findings := by rw [loading]
    refine ⟨⟨fun _ => load, fun _ => ⟨findings, outcome⟩⟩, ?_, ?_⟩
    · intro others loaded
      have paired := (loadAll_outcome_eq_ok_iff tree scenarios others).mp loaded
      refine ⟨paired, ?_, fun distinct => Dataset.exists_collects paired distinct⟩
      rw [loading]
    · intro failure impossible
      rw [outcome] at impossible
      cases impossible
  · have loading := loadAll_of_first_failure load failed after
    have outcome : (loadAll tree (before ++ failing :: after)).outcome = .error failure := by
      rw [loading]
    refine ⟨⟨?_, ?_⟩, ?_, ?_⟩
    · intro succeeds
      obtain ⟨findings, impossible⟩ := succeeds
      rw [outcome] at impossible
      cases impossible
    · intro all
      obtain ⟨finding, loaded⟩ := all failing (by simp)
      rw [failed] at loaded
      cases loaded
    · intro findings impossible
      rw [outcome] at impossible
      cases impossible
    · intro other same
      obtain rfl : failure = other := Except.error.inj (outcome.symm.trans same)
      refine ⟨before, failing, after, rfl, load, failed, ?_⟩
      rw [loading]

/-- A file with results, one whose abort rate is too large, and nothing else. -/
def mixedFolder : FileTree :=
  .holding
    [("plain.json", .file "\x7b\x7d".toUTF8.data.toList),
      ("wild.json", .file "\x7b\"abort_rate_pct\":140\x7d".toUTF8.data.toList)]

def soundScenarios : List Scenario :=
  [⟨"A", .embedded Values.none⟩, ⟨"B", .file ⟨"plain.json"⟩⟩, ⟨"C", .file ⟨"none.json"⟩⟩]

def wildScenario : Scenario :=
  ⟨"D", .file ⟨"wild.json"⟩⟩

theorem mixed_scenarios_load_up_to_wild_one :
    let scenarios := soundScenarios ++ wildScenario :: soundScenarios
    let failure : Failure := ⟨[.metricsOf "D"], .aboveMaximum "D" .abortRate 100 140⟩
    (∃ findings dataset absent, (loadAll mixedFolder soundScenarios).outcome = .ok findings ∧
        Dataset.ofFindings findings = .ok (dataset, absent) ∧
        Dataset.Collects mixedFolder soundScenarios dataset absent ∧
        dataset.labels = ["A", "B"] ∧ absent = [⟨"none.json"⟩]) ∧
      (loadAll mixedFolder scenarios).outcome = .error failure ∧
      (∃ before failing after, scenarios = before ++ failing :: after ∧
        (∀ scenario ∈ before, scenario.Loads mixedFolder) ∧
        (failing.load mixedFolder).outcome = .error failure ∧
        (loadAll mixedFolder scenarios).events =
          (before ++ [failing]).flatMap (logged mixedFolder)) ∧
      (loadAll mixedFolder scenarios).events =
        [.resultsLoaded "B" Results.empty, .resultsMissing "C" ⟨"none.json"⟩,
          .resultsLoaded "D" { Results.empty with abortRate := 140 }] := by
  intro scenarios failure
  have loaded : (loadAll mixedFolder soundScenarios).outcome =
      .ok [.found ⟨"A", Values.none⟩, .found (Results.empty.toMeasurement "B"),
        .absent ⟨"none.json"⟩] := by decide +kernel
  have failed : (loadAll mixedFolder scenarios).outcome = .error failure := by decide +kernel
  obtain ⟨_, _, completed, _⟩ := loading_stops_at_first_failure mixedFolder soundScenarios
  obtain ⟨_, _, _, refused⟩ := loading_stops_at_first_failure mixedFolder scenarios
  obtain ⟨_, _, collected⟩ := completed _ loaded
  obtain ⟨dataset, absent, made, collects⟩ := collected (by decide)
  refine ⟨⟨_, dataset, absent, loaded, made, collects, ?_, ?_⟩, failed, refused failure failed, ?_⟩
  · rw [collects.labels]
    decide +kernel
  · rw [collects.paths]
    decide +kernel
  · decide +kernel

end Scenario

end LoadReport
