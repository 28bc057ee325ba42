import LoadReport.Figure
import LoadReport.Scenario

/-! # Report configurations

A report has sections; each has scenarios and the figures that are drawn from them. A configuration
is checked as a whole before anything is loaded. -/

namespace LoadReport

/-- Scenarios and the figures drawn from them. -/
structure Section where
  scenarios : List Scenario
  figures : List Figure
deriving DecidableEq

/-- The sections of a report, in order. -/
structure Config where
  sections : List Section
deriving DecidableEq

namespace Section

/-- The files that the scenarios may come from. -/
def sources (part : Section) : List Path :=
  part.scenarios.filterMap fun scenario => scenario.source.path?

/-- No label may stand among the earlier ones. -/
def checkLabels (earlier : List String) : List Scenario → Except Failure Unit
  | [] => .ok ()
  | scenario :: rest => do
    require (scenario.label ∉ earlier) (.duplicateScenario scenario.label)
    checkLabels (scenario.label :: earlier) rest

/-- Checks figures in order, given the outputs of the figures before them; gives back the outputs of
all. -/
def checkFigures (taken : List Path) : List Figure → Except Failure (List Path)
  | [] => .ok taken
  | figure :: rest => do
    require (taken.all fun other => !figure.output.same other) (.sharedOutput figure.output)
    during (.figure figure.output) figure.check
    checkFigures (figure.output :: taken) rest

/-- Checks a section, given the outputs of the sections before it. -/
def check (taken : List Path) (part : Section) : Except Failure (List Path) := do
  require (part.figures ≠ []) .noFigures
  checkLabels [] part.scenarios
  checkFigures taken part.figures

end Section

namespace Config

/-- Checks sections in order, given the outputs of the sections before them. -/
def checkSections (taken : List Path) : List Section → Except Failure Unit
  | [] => .ok ()
  | part :: rest => do
    let taken ← part.check taken
    checkSections taken rest

/-- Checks that every figure can be drawn and has an output of its own. -/
def check (config : Config) : Except Failure Unit :=
  checkSections [] config.sections

end Config

end LoadReport
