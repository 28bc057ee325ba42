import LoadReport.Layout

/-! # Calls on the drawing library

What is asked of the drawing library, one call after the other, and how each call is written: on
what it is made, which function it names, and its arguments by position and by keyword. -/

namespace LoadReport.Drawing

/-- A call on the drawing library. Axes and figures are named by number, in the order in which they
were made. -/
inductive Call where
  | importLibrary
  | useRenderer
  | importPlotting
  | openFigure (size : Binary64 × Binary64)
  /-- Makes the axes of one of several charts side by side, counted from one. -/
  | subplot (columns position : Nat)
  | bars (axes : Nat) (label : String) (x heights : List Binary64) (width : Binary64)
      (colors : List Palette.Color)
  | line (axes : Nat) (label : String) (x y : List Binary64) (color : Palette.Color)
  | writeLabel (axes : Nat) (valueLabel : ValueLabel)
  | setTitle (axes : Nat) (text : String)
  | setXLabel (axes : Nat) (text : String)
  | setYLabel (axes : Nat) (text : String)
  | setTicks (axes : Nat) (ticks : List Binary64)
  | setTickLabels (axes : Nat) (labels : List String)
  | setLimits (axes : Nat) (top : Option Binary64)
  | showLegend (axes : Nat)
  | arrange
  | save (output : Path) (resolution : Option Nat)
  | closeFigure (figure : Nat)
deriving DecidableEq

/-- What a call is made on. -/
inductive Target where
  | interpreter
  | library
  | plotting
  | axes (number : Nat)
deriving DecidableEq

/-- An argument of a call. -/
inductive Argument where
  | text (value : String)
  | number (value : Binary64)
  | count (value : Nat)
  | numbers (values : List Binary64)
  | texts (values : List String)
  | figure (number : Nat)
deriving DecidableEq

namespace Target

/-- The name of a target; axes are numbered. -/
def name : Target → String
  | interpreter => "python"
  | library => "matplotlib"
  | plotting => "pyplot"
  | axes number => "axes" ++ Decimal.natural number

end Target

namespace Call

/-- The renderer that writes images to files. -/
def renderer : String := "Agg"

/-- Points joined by a line, each with a dot. -/
def lineFormat : String := "o-"

/-- What a call is made on. -/
def target : Call → Target
  | importLibrary | importPlotting => .interpreter
  | useRenderer => .library
  | openFigure _ | subplot _ _ | arrange | save _ _ | closeFigure _ => .plotting
  | bars number _ _ _ _ _ | line number _ _ _ _ | writeLabel number _ => .axes number
  | setTitle number _ | setXLabel number _ | setYLabel number _ => .axes number
  | setTicks number _ | setTickLabels number _ | setLimits number _ => .axes number
  | showLegend number => .axes number

/-- The function that a call names; loading a module counts as one. -/
def function : Call → String
  | importLibrary => "import matplotlib"
  | useRenderer => "use"
  | importPlotting => "import matplotlib.pyplot"
  | openFigure _ => "figure"
  | subplot _ _ => "subplot"
  | bars _ _ _ _ _ _ => "bar"
  | line _ _ _ _ _ => "plot"
  | writeLabel _ _ => "text"
  | setTitle _ _ => "set_title"
  | setXLabel _ _ => "set_xlabel"
  | setYLabel _ _ => "set_ylabel"
  | setTicks _ _ => "set_xticks"
  | setTickLabels _ _ => "set_xticklabels"
  | setLimits _ _ => "set_ylim"
  | showLegend _ => "legend"
  | arrange => "tight_layout"
  | save _ _ => "savefig"
  | closeFigure _ => "close"

/-- The arguments by position. -/
def positional : Call → List Argument
  | useRenderer => [.text renderer]
  | subplot columns position => [.count 1, .count columns, .count position]
  | bars _ _ x heights _ _ => [.numbers x, .numbers heights]
  | line _ _ x y _ => [.numbers x, .numbers y, .text lineFormat]
  | writeLabel _ valueLabel => [.number valueLabel.x, .number valueLabel.y, .text valueLabel.text]
  | setTitle _ text => [.text text]
  | setXLabel _ text => [.text text]
  | setYLabel _ text => [.text text]
  | setTicks _ ticks => [.numbers ticks]
  | setTickLabels _ labels => [.texts labels]
  | save output _ => [.text output.text]
  | closeFigure number => [.figure number]
  | importLibrary | importPlotting | openFigure _ | setLimits _ _ | showLegend _ | arrange => []

/-- The arguments by keyword; one that is not given is left to the library. -/
def keywords : Call → List (String × Argument)
  | openFigure size => [("figsize", .numbers [size.1, size.2])]
  | bars _ label _ _ width colors =>
    [("label", .text label), ("width", .number width), ("color", .texts colors)]
  | line _ label _ _ color => [("label", .text label), ("color", .text color)]
  | writeLabel _ _ => [("ha", .text "center"), ("va", .text "bottom")]
  | setLimits _ top =>
    ("bottom", .number 0) :: (top.map fun bound => ("top", Argument.number bound)).toList
  | save _ resolution => (resolution.map fun dpi => ("dpi", Argument.count dpi)).toList
  | _ => []

end Call

end LoadReport.Drawing
