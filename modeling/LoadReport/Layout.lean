import LoadReport.Dataset
import LoadReport.Figure
import LoadReport.Slot

/-! # Layouts

Where everything in a figure stands, once the data are known. Each scenario is centred at its index;
its bars share a slot around it. Every value that is there is drawn once and labelled with itself. A
chart has no layout if it takes a colour from an empty list or if a label asks for more places than
can be written out. -/

namespace LoadReport

/-- What a metric of a chart is drawn as. -/
inductive Series where
  | bars (label : String) (x heights : List Binary64) (width : Binary64)
      (colors : List Palette.Color)
  | line (label : String) (x y : List Binary64) (color : Palette.Color)
deriving DecidableEq

namespace Series

def positions : Series → List Binary64
  | bars _ x _ _ _ => x
  | line _ x _ _ => x

def size (series : Series) : Nat :=
  series.positions.length

def isEmpty (series : Series) : Bool :=
  series.positions.isEmpty

end Series

/-- A value label, centred at `x` and standing on `y`. -/
structure ValueLabel where
  x : Binary64
  y : Binary64
  text : String
deriving DecidableEq

/-- Everything that a chart shows, and where. -/
structure Chart.Layout where
  title : String
  xLabel : Option String
  yLabel : String
  yMax : Option Binary64
  ticks : List Binary64
  tickLabels : List String
  series : List Series
  valueLabels : List ValueLabel
  /-- Whether the series have to be told apart. -/
  legend : Bool
deriving DecidableEq

/-- Everything that is needed to draw a figure. -/
structure Figure.Layout where
  output : Path
  resolution : Option Nat
  size : Binary64 × Binary64
  charts : List Chart.Layout
deriving DecidableEq

namespace Dataset

def ticks (dataset : Dataset) : List Binary64 :=
  (List.range dataset.size).map Binary64.ofNat

/-- The scenarios that have a metric: where each is centred, and the value. -/
def points (dataset : Dataset) (metric : Metric) : List (Binary64 × Binary64) :=
  (dataset.measurements.zip dataset.ticks).filterMap fun (measurement, tick) =>
    (measurement.values.get metric).map fun value => (tick, value)

/-- The indices of the scenarios that have a metric. -/
def indices (dataset : Dataset) (metric : Metric) : List Nat :=
  (dataset.measurements.zipIdx.filter fun (measurement, _) =>
    (measurement.values.get metric).isSome).map Prod.snd

end Dataset

namespace Chart

/-- The width of a bar: bars of several metrics share the slot. -/
def barWidth (chart : Chart) : Binary64 :=
  Slot.barWidth chart.metrics.length

/-- How far the bars or points of the metric at an index stand from the centre of their scenario. -/
def shift (chart : Chart) (index : Nat) : Binary64 :=
  match chart.kind with
  | .bar => Slot.barShift index chart.metrics.length
  | .line => 0

/-- The bars or points of the metric at an index: position and value. -/
def placed (chart : Chart) (dataset : Dataset) (metric : Metric) (index : Nat) :
    List (Binary64 × Binary64) :=
  (dataset.points metric).map fun (tick, value) => (tick + chart.shift index, value)

/-- The colours of the bars of a metric. Bars of a single metric have the colours of their
scenarios, others that of the metric. -/
def barColors? (chart : Chart) (dataset : Dataset) (metric : Metric) (index count : Nat) :
    Option (List Palette.Color) :=
  if chart.metrics.length = 1 then (dataset.indices metric).mapM chart.color?
  else (chart.color? index).map (List.replicate count)

def series? (chart : Chart) (dataset : Dataset) (metric : Metric) (index : Nat) :
    Option Series := do
  let points := chart.placed dataset metric index
  let x := points.map Prod.fst
  let values := points.map Prod.snd
  match chart.kind with
  | .bar =>
    let colors ← chart.barColors? dataset metric index points.length
    return .bars metric.name x values chart.barWidth colors
  | .line =>
    let color ← chart.color? index
    return .line metric.name x values color

def valueLabel? (chart : Chart) (point : Binary64 × Binary64) : Option ValueLabel := do
  let text ← chart.labelFormat.render? point.2
  return { x := point.1, y := point.2 + chart.labelOffset, text }

def valueLabels? (chart : Chart) (dataset : Dataset) (metric : Metric) (index : Nat) :
    Option (List ValueLabel) :=
  (chart.placed dataset metric index).mapM chart.valueLabel?

def numbered (chart : Chart) : List (Metric × Nat) :=
  chart.metrics.zipIdx

def layout? (chart : Chart) (dataset : Dataset) : Option Chart.Layout := do
  let series ← chart.numbered.mapM fun (metric, index) => chart.series? dataset metric index
  let labels ← chart.numbered.mapM fun (metric, index) => chart.valueLabels? dataset metric index
  return {
    title := chart.title
    xLabel := chart.xLabel
    yLabel := chart.yLabel
    yMax := chart.yMax
    ticks := dataset.ticks
    tickLabels := dataset.labels
    series
    valueLabels := labels.flatten
    legend := decide (1 < chart.metrics.length) }

end Chart

namespace Chart.Layout

def elementCount (layout : Chart.Layout) : Nat :=
  (layout.series.flatMap Series.positions).length

end Chart.Layout

namespace Figure

/-- The layout of a figure: its charts side by side. -/
def layout? (figure : Figure) (dataset : Dataset) : Option Figure.Layout := do
  let charts ← figure.charts.mapM fun chart => chart.layout? dataset
  return { output := figure.output, resolution := figure.resolution, size := figure.size, charts }

end Figure

end LoadReport
