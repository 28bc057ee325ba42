import LoadReport.Measurement

/-! # Datasets

The measurements that go into a figure, from left to right. Each scenario occurs once and has only
values in range. -/

namespace LoadReport

/-- What became of a scenario's source: a measurement, or nothing to be found at its path. -/
inductive Finding where
  | found (measurement : Measurement)
  | absent (path : Path)
deriving DecidableEq

namespace Finding

/-- The measurement, if one was found. -/
def measurement? : Finding → Option Measurement
  | found measurement => some measurement
  | absent _ => none

/-- The path at which nothing was found. -/
def absentPath? : Finding → Option Path
  | found _ => none
  | absent path => some path

end Finding

/-- An ordered set of scenarios with their measurements. -/
structure Dataset where
  measurements : List Measurement
deriving DecidableEq

namespace Dataset

/-- Each measurement has to carry a label that is not among the earlier ones, and then to be in
range. -/
def checkAll (earlier : List String) : List Measurement → Except Failure Unit
  | [] => .ok ()
  | measurement :: rest => do
    require (measurement.scenario ∉ earlier) (.duplicateScenario measurement.scenario)
    measurement.check
    checkAll (measurement.scenario :: earlier) rest

/-- The set of the given measurements, in the same order. -/
def ofMeasurements (measurements : List Measurement) : Except Failure Dataset := do
  checkAll [] measurements
  return { measurements }

/-- The set of what was found, and apart from it the paths of what was not, both in order. -/
def ofFindings (findings : List Finding) : Except Failure (Dataset × List Path) := do
  let dataset ← ofMeasurements (findings.filterMap Finding.measurement?)
  return (dataset, findings.filterMap Finding.absentPath?)

def size (dataset : Dataset) : Nat :=
  dataset.measurements.length

def isEmpty (dataset : Dataset) : Bool :=
  dataset.measurements.isEmpty

def labels (dataset : Dataset) : List String :=
  dataset.measurements.map Measurement.scenario

def get? (dataset : Dataset) (label : String) : Option Measurement :=
  dataset.measurements.find? fun measurement => measurement.scenario = label

end Dataset

end LoadReport
