import LoadReport.Drawing.Call

/-! # Plans of calls

The calls that draw a layout. They depend only on the layout and on what has been loaded and made
before: the renderer is selected for every figure before plotting is used, then come the figure, its
charts from left to right, and the image. -/

namespace LoadReport.Drawing

/-- The call that draws a series. -/
def seriesCall (axes : Nat) : Series → Call
  | .bars label x heights width colors => .bars axes label x heights width colors
  | .line label x y color => .line axes label x y color

/-- The calls on the axes of one chart. -/
def chartCalls (axes : Nat) (chart : Chart.Layout) : List Call :=
  chart.series.map (seriesCall axes) ++
    chart.valueLabels.map (Call.writeLabel axes) ++
    Call.setTitle axes chart.title ::
    ((chart.xLabel.map (Call.setXLabel axes)).toList ++
      [.setYLabel axes chart.yLabel, .setTicks axes chart.ticks,
        .setTickLabels axes chart.tickLabels, .setLimits axes chart.yMax] ++
      if chart.legend then [.showLegend axes] else [])

/-- The calls for the charts from the one at `index` on, whose axes get the numbers from `axes`
on. -/
def chartsCalls (columns axes index : Nat) : List Chart.Layout → List Call
  | [] => []
  | chart :: rest =>
    Call.subplot columns (index + 1) :: (chartCalls axes chart ++
      chartsCalls columns (axes + 1) (index + 1) rest)

/-- What has been loaded and made so far. A module that is loaded is not imported again. -/
structure Progress where
  library : Bool
  plotting : Bool
  figures : Nat
  axes : Nat
deriving DecidableEq

namespace Progress

/-- Nothing loaded and nothing made. -/
def fresh : Progress where
  library := false
  plotting := false
  figures := 0
  axes := 0

/-- What is there after a call has returned. -/
def after (progress : Progress) : Call → Progress
  | .importLibrary => { progress with library := true }
  | .importPlotting => { progress with plotting := true }
  | .openFigure _ => { progress with figures := progress.figures + 1 }
  | .subplot _ _ => { progress with axes := progress.axes + 1 }
  | _ => progress

/-- The calls before any on plotting. -/
def preparation (progress : Progress) : List Call :=
  (if progress.library then [] else [.importLibrary]) ++ [.useRenderer] ++
    if progress.plotting then [] else [.importPlotting]

/-- The calls that draw a layout. -/
def plan (progress : Progress) (layout : Figure.Layout) : List Call :=
  progress.preparation ++ .openFigure layout.size ::
    (chartsCalls layout.charts.length progress.axes 0 layout.charts ++
      [.arrange, .save layout.output layout.resolution, .closeFigure progress.figures])

end Progress

end LoadReport.Drawing
