import LoadReport.Chart

/-! # Figures

An image with charts side by side. -/

namespace LoadReport

/-- An image that is asked for, with its charts from left to right. -/
structure Figure where
  output : Path
  /-- Dots per inch, unless the drawing library is to choose. -/
  resolution : Option Nat
  /-- Width and height in inches. -/
  size : Binary64 × Binary64
  charts : List Chart
deriving DecidableEq

namespace Figure

/-- A figure of five inches in height, with six inches in width for each chart. -/
def create (output : Path) (charts : List Chart) : Figure where
  output := output
  resolution := none
  size := (6 * Binary64.ofNat (max charts.length 1), 5)
  charts := charts

def withResolution (figure : Figure) (resolution : Nat) : Figure :=
  { figure with resolution := some resolution }

def withSize (figure : Figure) (width height : Binary64) : Figure :=
  { figure with size := (width, height) }

def checkSize (size : Binary64 × Binary64) : Except Failure Unit :=
  require (0 < size.1 ∧ 0 < size.2) (.sizeNotPositive size.1 size.2)

/-- A fixed resolution has to be above zero. -/
def checkResolution : Option Nat → Except Failure Unit
  | none => .ok ()
  | some resolution => require (0 < resolution) .resolutionNotPositive

/-- Checks charts in order, each in its own name. -/
def checkCharts : List Chart → Except Failure Unit
  | [] => .ok ()
  | chart :: rest => do
    during (.chart chart.title) chart.check
    checkCharts rest

/-- Checks the figure itself before its charts. -/
def check (figure : Figure) : Except Failure Unit := do
  require (figure.charts ≠ []) .noCharts
  checkSize figure.size
  checkResolution figure.resolution
  checkCharts figure.charts

end Figure

end LoadReport
