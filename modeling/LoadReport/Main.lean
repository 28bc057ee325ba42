import LoadReport.Config.Preset
import LoadReport.Report.Run

/-! # Command line

One argument names a preset report. Its results files are read from the working directory, the
report is run, and its lines go to the console; a failure is named on the error stream. The figures
go to a drawing session that keeps the calls it is given. -/

namespace LoadReport.Main

/-- The report that the arguments name. -/
def preset? : List String → Option Preset
  | ["results"] => some .benchmarkResults
  | ["figures"] => some .paperFigures
  | ["summary"] => some .summary
  | _ => none

/-- How the program is called. -/
def usage : String :=
  "usage: load-report results|figures|summary"

/-- The files that scenarios of a report may come from; a report that cannot be built has none. -/
def resultsPaths (preset : Preset) : List Path :=
  match preset.config with
  | .error _ => []
  | .ok config => config.sections.flatMap Section.sources

/-- What the report of a preset does with the files of a tree. A report that cannot be built fails
before anything happens. -/
def perform (fault : Drawing.Fault) (preset : Preset) (tree : FileTree) :
    Report.Ending × Report.Trace Drawing.Session :=
  match preset.config with
  | .error failure => (.failed failure, Report.Trace.start Drawing.Session.fresh)
  | .ok config => Report.run (Drawing.calling fault) none Drawing.Session.fresh tree config

/-- The tree with what stands at a path in the working directory, if anything does. -/
def readInto (tree : FileTree) (path : Path) : IO FileTree := do
  try
    let bytes ← IO.FS.readBinFile path.text
    return tree.write path bytes.data.toList
  catch
    | .noFileOrDirectory .. => return tree
    | .inappropriateType .. => return tree.makeDirectory path
    | error => throw error

/-- Names a failure on the error stream. -/
def report (message : String) : IO UInt32 := do
  IO.eprintln ("Error: " ++ message)
  return 1

/-- Runs the report of a preset on the files of the working directory. -/
def run (preset : Preset) : IO UInt32 := do
  let tree ← (resultsPaths preset).foldlM readInto FileTree.empty
  let (ending, trace) := perform Drawing.Fault.none preset tree
  (← IO.getStdout).write ⟨trace.output.toArray⟩
  match ending with
  | .completed => return 0
  | .failed failure => report failure.message
  | .crashed => report "no layout"

end LoadReport.Main

/-- Runs the report that the arguments name. -/
def main (arguments : List String) : IO UInt32 := do
  match LoadReport.Main.preset? arguments with
  | none => LoadReport.Main.report LoadReport.Main.usage
  | some preset => LoadReport.Main.run preset
