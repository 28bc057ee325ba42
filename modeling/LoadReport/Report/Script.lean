import LoadReport.Config.Basic
import LoadReport.Layout

/-! # Scripts of reports

A report is a script: everything it does, one step after the other, as far as it follows from the
configuration and the files. What may come in between, a figure that cannot be drawn or a console
that cannot be written to, only cuts the script short.

An image that is saved is one of the files from then on. So each section is loaded from what the
sections before it have made of the files. -/

namespace LoadReport.Report

inductive Line where
  | skipped (path : Path)
  | noData
  | generated (output : Path)
deriving DecidableEq

namespace Line

def text : Line → String
  | skipped path => "Warning: " ++ path.text ++ " not found. Skipping.\n"
  | noData => "No data found.\n"
  | generated output => "Generated " ++ output.text ++ "\n"

def output? : Line → Option Path
  | skipped _ => none
  | noData => none
  | generated output => some output

end Line

inductive Step where
  | log (event : Event)
  | print (line : Line)
  | draw (layout : Figure.Layout)
  | fail (failure : Failure)
  /-- There is no layout to go on with. -/
  | crash
deriving DecidableEq

/-- The layouts that a step hands to the backend. -/
def Step.drawn : Step → List Figure.Layout
  | draw layout => [layout]
  | _ => []

/-- What drawing a layout makes of the files. -/
abbrev Saving := FileTree → Figure.Layout → FileTree

namespace Saving

/-- Images are not kept in files. -/
def none : Saving :=
  fun tree _ => tree

/-- The image of a layout is kept in the file that the layout names. -/
def image (bytes : Figure.Layout → List UInt8) : Saving :=
  fun tree layout => tree.write layout.output (bytes layout)

/-- The files once all layouts of some steps are drawn. -/
def after (saving : Saving) (tree : FileTree) (steps : List Step) : FileTree :=
  (steps.flatMap Step.drawn).foldl saving tree

theorem after_none (tree : FileTree) (steps : List Step) : none.after tree steps = tree := by
  rw [after]
  induction steps.flatMap Step.drawn with
  | nil => rfl
  | cons layout rest ih => exact ih

end Saving

/-- The steps for a figure: it is drawn, logged and announced. -/
def figureScript (dataset : Dataset) (figure : Figure) : List Step :=
  match figure.layout? dataset with
  | none => [.crash]
  | some layout =>
    [.draw layout, .log (.figureDrawn figure.output dataset.size layout.charts.length),
      .print (.generated figure.output)]

/-- The steps for what has been loaded: missing sources are named before anything is drawn. -/
def loadedScript (figures : List Figure) (findings : List Finding) : List Step :=
  match Dataset.ofFindings findings with
  | .error failure => [.fail failure]
  | .ok (dataset, absent) =>
    absent.map (fun path => .print (.skipped path)) ++
      if dataset.isEmpty then [.print .noData] else figures.flatMap (figureScript dataset)

/-- The steps for a section: all its scenarios are loaded before anything else happens. -/
def sectionScript (tree : FileTree) (part : Section) : List Step :=
  let loading := Scenario.loadAll tree part.scenarios
  loading.events.map .log ++
    match loading.outcome with
    | .error failure => [.fail (failure.within .loadScenarios)]
    | .ok findings => loadedScript part.figures findings

/-- The steps for sections, one after the other. -/
def sectionsScript (saving : Saving) (tree : FileTree) : List Section → List Step
  | [] => []
  | part :: rest =>
    let steps := sectionScript tree part
    steps ++ sectionsScript saving (saving.after tree steps) rest

theorem sectionsScript_none (tree : FileTree) (sections : List Section) :
    sectionsScript .none tree sections = sections.flatMap (sectionScript tree) := by
  induction sections with
  | nil => rfl
  | cons part rest ih => simp only [sectionsScript, Saving.after_none, ih, List.flatMap_cons]

/-- The steps of a report: nothing is done unless the whole configuration is in order. -/
def scriptSaving (saving : Saving) (tree : FileTree) (config : Config) : List Step :=
  match config.check with
  | .error failure => [.fail (failure.within .reportConfig)]
  | .ok () => sectionsScript saving tree config.sections

/-- The steps of a report whose images are not kept in files. -/
def script (tree : FileTree) (config : Config) : List Step :=
  scriptSaving .none tree config

theorem script_of_error {config : Config} {failure : Failure} (refused : config.check = .error failure)
    (tree : FileTree) : script tree config = [.fail (failure.within .reportConfig)] := by
  simp only [script, scriptSaving, refused]

theorem script_of_ok {config : Config} (accepted : config.check = .ok ()) (tree : FileTree) :
    script tree config = config.sections.flatMap (sectionScript tree) := by
  simp only [script, scriptSaving, accepted, sectionsScript_none]

end LoadReport.Report
