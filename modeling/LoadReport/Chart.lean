import LoadReport.Failure
import LoadReport.Palette

/-! # Charts

What a chart is to show, before any data is known. -/

namespace LoadReport

inductive Chart.Kind where
  /-- One bar for each scenario, or one for each metric side by side. -/
  | bar
  /-- One line for each metric across the scenarios. -/
  | line
deriving DecidableEq

/-- What a chart is asked to show. -/
structure Chart where
  title : String
  kind : Chart.Kind
  metrics : List Metric
  xLabel : Option String
  yLabel : String
  labelFormat : LabelFormat
  /-- The upper end of the vertical axis, if it is fixed. -/
  yMax : Option Binary64
  /-- How far above its bar or point a value label stands. -/
  labelOffset : Binary64
  /-- Colours in place of the palette. -/
  colors : Option (List Palette.Color)
deriving DecidableEq

namespace Chart

/-- A chart of one metric, whose value labels follow the given specification. -/
def create (title : String) (kind : Chart.Kind) (metric : Metric) (yLabel specification : String) :
    Except Failure Chart :=
  match LabelFormat.parse specification with
  | .error fault =>
    during (.labelFormatOf title) (.error (Failure.ofCause (.labelFormat specification fault)))
  | .ok labelFormat =>
    .ok
      { title, kind, yLabel, labelFormat
        metrics := [metric]
        xLabel := none
        yMax := none
        labelOffset := 0
        colors := none }

def withMetrics (chart : Chart) (metrics : List Metric) : Chart :=
  { chart with metrics }

def withXLabel (chart : Chart) (label : String) : Chart :=
  { chart with xLabel := some label }

/-- Fixes the upper end of the vertical axis. Value labels move up by a hundredth of it. -/
def withYMax (chart : Chart) (bound : Binary64) : Chart :=
  { chart with yMax := some bound, labelOffset := bound * 0.01 }

def withLabelOffset (chart : Chart) (offset : Binary64) : Chart :=
  { chart with labelOffset := offset }

def withColors (chart : Chart) (colors : List Palette.Color) : Chart :=
  { chart with colors := some colors }

/-- The colour at an index; none if the chart's own list of colours is empty. -/
def color? (chart : Chart) (index : Nat) : Option Palette.Color :=
  match chart.colors with
  | some colors => Palette.cycle? colors index
  | none => some (Palette.color index)

/-- No metric may stand among the earlier ones. -/
def checkMetrics (earlier : List Metric) : List Metric → Except Failure Unit
  | [] => .ok ()
  | metric :: rest => do
    require (metric ∉ earlier) (.repeatedMetric metric)
    checkMetrics (metric :: earlier) rest

/-- A fixed upper end has to be a number above zero. -/
def checkBound : Option Binary64 → Except Failure Unit
  | none => .ok ()
  | some bound => require (bound.isFinite ∧ 0 < bound) (.boundNotPositive bound)

/-- Colours in place of the palette have to be some. -/
def checkColors : Option (List Palette.Color) → Except Failure Unit
  | none => .ok ()
  | some colors => require (colors ≠ []) .noColors

/-- Checks everything that a chart can be asked for and that cannot be drawn. -/
def check (chart : Chart) : Except Failure Unit := do
  require (chart.metrics ≠ []) .noMetrics
  checkMetrics [] chart.metrics
  checkBound chart.yMax
  require (chart.labelOffset.isFinite ∧ 0 ≤ chart.labelOffset)
    (.offsetNegative chart.labelOffset)
  checkColors chart.colors

end Chart

end LoadReport
