import LoadReport.Decimal.Style
import LoadReport.LabelFormat
import LoadReport.Metric
import LoadReport.Path
import LoadReport.Text.Quoted

/-! # Failures

A failure is a cause and the activities during which it came up, the outermost first. All wording
stands here, in the two functions `Context.message` and `Cause.message`. -/

namespace LoadReport

inductive FileFault where
  | notFound
  | notADirectory
  | isADirectory
  | nameTooLong
  | invalidName
  | brokenPipe
deriving DecidableEq

namespace FileFault

def name : FileFault → String
  | notFound => "NotFound"
  | notADirectory => "NotADirectory"
  | isADirectory => "IsADirectory"
  | nameTooLong => "InvalidFilename"
  | invalidName => "InvalidInput"
  | brokenPipe => "BrokenPipe"

end FileFault

/-- What can go wrong with the text of a results file: it is no text of its format at all, or a
value in it does not belong where it stands. -/
inductive ContentFault where
  | malformed
  | mistyped
deriving DecidableEq

namespace ContentFault

def name : ContentFault → String
  | malformed => "syntax"
  | mistyped => "data"

end ContentFault

/-- The activity during which something went wrong. -/
inductive Context where
  | reportConfig
  | figure (output : Path)
  | chart (title : String)
  | labelFormatOf (title : String)
  | openResults (path : Path)
  | parseResults (path : Path)
  | metricsOf (scenario : String)
  | loadScenarios
  | drawFigure (output : Path)
deriving DecidableEq

namespace Context

def message : Context → String
  | reportConfig => "invalid report config"
  | figure output => "figure " ++ output.text
  | chart title => "chart " ++ Text.quoted title
  | labelFormatOf title => "label format of chart " ++ Text.quoted title
  | openResults path => "open results file " ++ path.text
  | parseResults path => "parse results file " ++ path.text
  | metricsOf scenario => "invalid metrics for " ++ Text.quoted scenario
  | loadScenarios => "load scenarios"
  | drawFigure output => "draw figure " ++ output.text

end Context

/-- The first thing that went wrong. -/
inductive Cause where
  | labelFormat (specification : String) (fault : LabelFormat.Fault)
  | duplicateScenario (label : String)
  | outOfRange (scenario : String) (metric : Metric) (value : Binary64)
  | aboveMaximum (scenario : String) (metric : Metric) (maximum value : Binary64)
  | noFigures
  | sharedOutput (output : Path)
  | noCharts
  | sizeNotPositive (width height : Binary64)
  | resolutionNotPositive
  | noMetrics
  | repeatedMetric (metric : Metric)
  | boundNotPositive (bound : Binary64)
  | offsetNegative (offset : Binary64)
  | noColors
  | content (fault : ContentFault)
  | file (fault : FileFault)
  | drawingRefused
  | drawingRaised
deriving DecidableEq

/-- Which part of the surroundings a cause comes from. -/
inductive Cause.Kind where
  | report
  | content
  | file
  | drawing
deriving DecidableEq

namespace Cause

/-- Only faults of files, of their contents and of the drawing library come from outside. -/
def kind : Cause → Kind
  | content _ => .content
  | file _ => .file
  | drawingRaised => .drawing
  | _ => .report

def message : Cause → String
  | labelFormat specification .unsupportedConversion =>
    "unsupported conversion in label format " ++ Text.quoted specification
  | labelFormat specification .placesTooLarge =>
    "invalid precision in " ++ Text.quoted specification ++
      ": number too large to fit in target type"
  | labelFormat specification .noConversion =>
    "label format " ++ Text.quoted specification ++ " has no conversion"
  | duplicateScenario label => "duplicate scenario " ++ Text.quoted label
  | outOfRange scenario metric value =>
    "scenario " ++ Text.quoted scenario ++ ": " ++ metric.key ++
      " must be a non-negative number, got " ++ Decimal.Style.plain.render value
  | aboveMaximum scenario metric maximum value =>
    "scenario " ++ Text.quoted scenario ++ ": " ++ metric.key ++ " must be at most " ++
      Decimal.Style.plain.render maximum ++ ", got " ++ Decimal.Style.plain.render value
  | noFigures => "section has no figures"
  | sharedOutput output => "output " ++ output.text ++ " used by more than one figure"
  | noCharts => "figure has no charts"
  | sizeNotPositive width height =>
    "figure size must be positive, got (" ++ Decimal.Style.length.render width ++ ", " ++
      Decimal.Style.length.render height ++ ")"
  | resolutionNotPositive => "dpi must be positive"
  | noMetrics => "no metrics to plot"
  | repeatedMetric metric => "metric " ++ metric.key ++ " repeated"
  | boundNotPositive bound =>
    "y axis bound must be positive, got " ++ Decimal.Style.plain.render bound
  | offsetNegative offset =>
    "label offset must be non-negative, got " ++ Decimal.Style.plain.render offset
  | noColors => "empty color list"
  | content fault => "json:" ++ fault.name
  | file fault => "io:" ++ fault.name
  | drawingRefused => "backend failure"
  | drawingRaised => "python error"

end Cause

/-- A cause with the activities around it, the outermost first. -/
structure Failure where
  contexts : List Context
  cause : Cause
deriving DecidableEq

namespace Failure

/-- A failure that came up outside any named activity. -/
def ofCause (cause : Cause) : Failure where
  contexts := []
  cause := cause

/-- The same failure, seen from one activity further out. -/
def within (context : Context) (failure : Failure) : Failure where
  contexts := context :: failure.contexts
  cause := failure.cause

/-- The outermost activity first, the cause last. -/
def message (failure : Failure) : String :=
  String.intercalate ": " (failure.contexts.map Context.message ++ [failure.cause.message])

end Failure

/-- Names the activity in which a computation fails. -/
def during {α : Type} (context : Context) (outcome : Except Failure α) : Except Failure α :=
  outcome.mapError (Failure.within context)

/-- Fails with the given cause unless the condition holds. -/
def require (condition : Prop) [Decidable condition] (cause : Cause) : Except Failure Unit :=
  if condition then .ok () else .error (Failure.ofCause cause)

@[simp] theorem require_eq_ok_iff (condition : Prop) [Decidable condition] (cause : Cause) :
    require condition cause = .ok () ↔ condition := by
  by_cases holds : condition <;> simp [require, holds]

@[simp] theorem during_eq_ok_iff {α : Type} (context : Context) (outcome : Except Failure α)
    (value : α) : during context outcome = .ok value ↔ outcome = .ok value := by
  cases outcome with
  | error failure => exact ⟨nofun, nofun⟩
  | ok other => exact Iff.rfl

end LoadReport
