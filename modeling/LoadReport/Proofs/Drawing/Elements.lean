import LoadReport.Drawing.Plan

/-!
# What is drawn for a layout

The calls of one function among those for a layout, in order: one opens the figure, one makes the axes
of each chart, and on the axes of a chart there is one for each of its series and value labels.
-/

namespace LoadReport.Drawing

/-- The calls of a function among calls. -/
def callsOf (function : String) (calls : List Call) : List Call :=
  calls.filter fun call => call.function = function

section

variable (function : String)

@[simp] theorem callsOf_nil : callsOf function [] = [] := rfl

@[simp] theorem callsOf_append (first second : List Call) :
    callsOf function (first ++ second) = callsOf function first ++ callsOf function second :=
  List.filter_append ..

@[simp] theorem callsOf_cons (call : Call) (rest : List Call) :
    callsOf function (call :: rest) =
      if call.function = function then call :: callsOf function rest else callsOf function rest := by
  simp [callsOf, List.filter_cons]

theorem callsOf_eq_self {calls : List Call} (all : ∀ call ∈ calls, call.function = function) :
    callsOf function calls = calls := by
  simpa [callsOf] using all

theorem callsOf_eq_nil {calls : List Call} (none : ∀ call ∈ calls, call.function ≠ function) :
    callsOf function calls = [] := by
  simpa [callsOf] using none

end

/-! ## The calls for charts -/

theorem target_of_mem_chartCalls {axes : Nat} {chart : Chart.Layout} {call : Call}
    (member : call ∈ chartCalls axes chart) : call.target = .axes axes := by
  simp only [chartCalls, List.mem_append, List.mem_cons, List.mem_map, Option.mem_toList,
    Option.map_eq_some_iff, List.not_mem_nil, or_false] at member
  obtain (⟨series, _, rfl⟩ | ⟨label, _, rfl⟩) | rfl |
    (⟨text, _, rfl⟩ | rfl | rfl | rfl | rfl) | shown := member
  · cases series <;> rfl
  · rfl
  · rfl
  · rfl
  · rfl
  · rfl
  · rfl
  · rfl
  · split at shown
    · rw [List.mem_singleton.mp shown]
      rfl
    · cases shown

/-- The calls for charts make their axes or are made on them. -/
theorem target_of_mem_chartsCalls {columns axes index : Nat} {charts : List Chart.Layout}
    {call : Call} (member : call ∈ chartsCalls columns axes index charts) :
    (∃ position, call = .subplot columns position) ∨ ∃ number, call.target = .axes number := by
  induction charts generalizing axes index with
  | nil => cases member
  | cons chart rest inductionHypothesis =>
    rw [chartsCalls, List.mem_cons, List.mem_append] at member
    obtain rfl | ofChart | ofOthers := member
    · exact .inl ⟨_, rfl⟩
    · exact .inr ⟨axes, target_of_mem_chartCalls ofChart⟩
    · exact inductionHypothesis ofOthers

theorem function_seriesCall (axes : Nat) (series : Series) :
    (seriesCall axes series).function = "bar" ∨ (seriesCall axes series).function = "plot" := by
  cases series with
  | bars label x heights width colors => exact .inl rfl
  | line label x y color => exact .inr rfl

theorem bars_of_chartCalls (axes : Nat) (chart : Chart.Layout) :
    callsOf "bar" (chartCalls axes chart) = callsOf "bar" (chart.series.map (seriesCall axes)) := by
  have labels : callsOf "bar" (chart.valueLabels.map (Call.writeLabel axes)) = [] :=
    callsOf_eq_nil _ (by simp [Call.function])
  -- A label of the axis and a legend may be missing, but neither is a bar.
  cases title : chart.xLabel <;> cases shown : chart.legend <;>
    simp [chartCalls, labels, title, shown, Call.function]

theorem texts_of_chartCalls (axes : Nat) (chart : Chart.Layout) :
    callsOf "text" (chartCalls axes chart) = chart.valueLabels.map (Call.writeLabel axes) := by
  have labels : callsOf "text" (chart.valueLabels.map (Call.writeLabel axes)) =
      chart.valueLabels.map (Call.writeLabel axes) :=
    callsOf_eq_self _ (by simp [Call.function])
  have series : callsOf "text" (chart.series.map (seriesCall axes)) = [] := by
    apply callsOf_eq_nil
    intro call member
    obtain ⟨series, _, rfl⟩ := List.mem_map.mp member
    obtain bar | plot := function_seriesCall axes series
    · simp [bar]
    · simp [plot]
  cases title : chart.xLabel <;> cases shown : chart.legend <;>
    simp [chartCalls, labels, series, title, shown, Call.function]

theorem callsOf_chartsCalls {function : String} (notSubplot : "subplot" ≠ function)
    (columns axes index : Nat) (charts : List Chart.Layout) :
    callsOf function (chartsCalls columns axes index charts) =
      (charts.zipIdx axes).flatMap fun entry => callsOf function (chartCalls entry.2 entry.1) := by
  induction charts generalizing axes index with
  | nil => rfl
  | cons chart rest inductionHypothesis =>
    have subplot : (Call.subplot columns (index + 1)).function ≠ function := notSubplot
    rw [chartsCalls, callsOf_cons, if_neg subplot, callsOf_append, inductionHypothesis,
      List.zipIdx_cons, List.flatMap_cons]

theorem subplots_of_chartsCalls (columns axes index : Nat) (charts : List Chart.Layout) :
    callsOf "subplot" (chartsCalls columns axes index charts) =
      (List.range' index charts.length).map fun position => .subplot columns (position + 1) := by
  induction charts generalizing axes index with
  | nil => rfl
  | cons chart rest inductionHypothesis =>
    have onAxes : callsOf "subplot" (chartCalls axes chart) = [] := by
      apply callsOf_eq_nil
      intro call member
      have target := target_of_mem_chartCalls member
      cases call <;> simp_all [Call.function, Call.target]
    have subplot : (Call.subplot columns (index + 1)).function = "subplot" := rfl
    rw [chartsCalls, callsOf_cons, if_pos subplot, callsOf_append, onAxes, inductionHypothesis,
      List.length_cons, List.range'_succ, List.map_cons, List.nil_append]

/-! ## The calls for a layout -/

section

variable (progress : Progress) (layout : Figure.Layout)

/-- Axes are made and drawn on for charts only. -/
theorem callsOf_plan {function : String} (ofCharts : function ∈ ["subplot", "bar", "text"]) :
    callsOf function (progress.plan layout) =
      callsOf function
        (chartsCalls layout.charts.length progress.axes 0 layout.charts) := by
  simp only [List.mem_cons, List.not_mem_nil, or_false] at ofCharts
  -- What is loaded already only shortens the preparation.
  cases library : progress.library <;> cases plotting : progress.plotting <;>
    obtain rfl | rfl | rfl := ofCharts <;>
    simp [Progress.plan, Progress.preparation, library, plotting, Call.function]

theorem figures_of_plan :
    callsOf "figure" (progress.plan layout) = [.openFigure layout.size] := by
  have charts : callsOf "figure"
      (chartsCalls layout.charts.length progress.axes 0 layout.charts) = [] := by
    apply callsOf_eq_nil
    intro call member
    obtain ⟨position, rfl⟩ | ⟨number, onAxes⟩ := target_of_mem_chartsCalls member
    · simp [Call.function]
    · cases call <;> simp_all [Call.function, Call.target]
  cases library : progress.library <;> cases plotting : progress.plotting <;>
    simp [Progress.plan, Progress.preparation, library, plotting, charts, Call.function]

theorem subplots_of_plan :
    callsOf "subplot" (progress.plan layout) =
      (List.range layout.charts.length).map fun position =>
        .subplot layout.charts.length (position + 1) := by
  rw [callsOf_plan progress layout (by simp), subplots_of_chartsCalls, List.range_eq_range']

theorem bars_of_plan :
    callsOf "bar" (progress.plan layout) =
      (layout.charts.zipIdx progress.axes).flatMap fun entry =>
        callsOf "bar" (entry.1.series.map (seriesCall entry.2)) := by
  rw [callsOf_plan progress layout (by simp), callsOf_chartsCalls (by decide)]
  simp only [bars_of_chartCalls]

theorem texts_of_plan :
    callsOf "text" (progress.plan layout) =
      (layout.charts.zipIdx progress.axes).flatMap fun entry =>
        entry.1.valueLabels.map (Call.writeLabel entry.2) := by
  rw [callsOf_plan progress layout (by simp), callsOf_chartsCalls (by decide)]
  simp only [texts_of_chartCalls]

end

end LoadReport.Drawing
