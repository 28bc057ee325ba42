import LoadReport.Event
import LoadReport.FileTree
import LoadReport.Results.Reader
import LoadReport.Dataset

/-! # Scenarios and their sources

Loading a scenario finds its measurement or finds that there is none. A missing results file is no
failure, but a file that is there has to be read and to hold values in range. -/

namespace LoadReport

inductive Source where
  | file (path : Path)
  | embedded (values : Values)
deriving DecidableEq

/-- The path of a file. -/
def Source.path? : Source → Option Path
  | file path => some path
  | embedded _ => none

/-- A scenario of a report: its label and where its values come from. -/
structure Scenario where
  label : String
  source : Source
deriving DecidableEq

namespace FileTree

/-- The results in the file at a path. A directory can be opened, but not read. -/
def readResults (tree : FileTree) (path : Path) : Except Failure Results :=
  match tree.find path with
  | .error fault => during (.openResults path) (.error (Failure.ofCause (.file fault)))
  | .ok (.directory _) =>
    during (.parseResults path) (.error (Failure.ofCause (.file .isADirectory)))
  | .ok (.file bytes) =>
    during (.parseResults path)
      ((Results.ofBytes bytes).mapError fun fault => Failure.ofCause (.content fault))

end FileTree

/-- What loading brings about: the events on the way, and an outcome. -/
structure Loading (α : Type) where
  events : List Event
  outcome : Except Failure α

namespace Scenario

/-- The measurement, once its values are in range. -/
def accept (scenario : Scenario) (measurement : Measurement) : Except Failure Finding := do
  during (.metricsOf scenario.label) measurement.check
  return .found measurement

/-- Loads one scenario. What was read is logged before its range is checked. -/
def load (tree : FileTree) (scenario : Scenario) : Loading Finding :=
  match scenario.source with
  | .embedded values => ⟨[], scenario.accept ⟨scenario.label, values⟩⟩
  | .file path =>
    if tree.contains path then
      match tree.readResults path with
      | .error failure => ⟨[], .error failure⟩
      | .ok results =>
        ⟨[.resultsLoaded scenario.label results],
          scenario.accept (results.toMeasurement scenario.label)⟩
    else ⟨[.resultsMissing scenario.label path], .ok (.absent path)⟩

/-- Loads scenarios in order, up to the first that fails. -/
def loadAll (tree : FileTree) : List Scenario → Loading (List Finding)
  | [] => ⟨[], .ok []⟩
  | scenario :: rest =>
    match scenario.load tree with
    | ⟨events, .error failure⟩ => ⟨events, .error failure⟩
    | ⟨events, .ok loaded⟩ =>
      let remaining := loadAll tree rest
      ⟨events ++ remaining.events, (loaded :: ·) <$> remaining.outcome⟩

end Scenario

end LoadReport
