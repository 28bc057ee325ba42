import Mathlib.Data.List.ProdSigma
import LoadReport.Proofs.Layout.Depiction

/-!
# Marks and their labels

A chart draws every value that is there once, at the tick of its scenario and with a label of its own.
Positions, values and labels are lists of their own in a layout; they are aligned because all of them
come from `Chart.placed`, one entry after the other.

* `Chart.series?_draws` — what is drawn of one metric.
* `Chart.valueLabels?_tell` — the labels of one metric.
-/

namespace LoadReport

open Outcomes

namespace Series

def kind : Series → Chart.Kind
  | bars _ _ _ _ _ => .bar
  | line _ _ _ _ => .line

/-- The bars or points of a series: where each stands, and the value that it shows. -/
def marks (series : Series) : List (Binary64 × Binary64) :=
  series.positions.zip series.values

end Series

/-- A label stands above its mark by the offset of the chart, and says the value. -/
structure ValueLabel.Tells (label : ValueLabel) (chart : Chart) (mark : Binary64 × Binary64) :
    Prop where
  x : label.x = mark.1
  y : label.y = mark.2 + chart.labelOffset
  text : chart.labelFormat.render? mark.2 = some label.text

/-- A series draws a metric if it has a mark for each measurement with a value of it, in order: at the
measurement's tick, up to the shift that all marks of the metric have. -/
structure Series.Draws (series : Series) (chart : Chart) (measurements : List Measurement)
    (ticks : List Binary64) (metric : Metric) (index : Nat) : Prop where
  label : series.label = metric.name
  kind : series.kind = chart.kind
  values : series.values = measurements.filterMap fun measurement => measurement.values.get metric
  marks : series.marks = (measurements.zip ticks).filterMap fun (measurement, tick) =>
    (measurement.values.get metric).map fun value => (tick + chart.shift index, value)
  paired : series.positions.length = series.values.length

/-- The pairs of one of several metrics and a measurement that has a value of it. -/
def Dataset.measured (dataset : Dataset) (metrics : List Metric) : List (Metric × Measurement) :=
  (metrics ×ˢ dataset.measurements).filter fun entry => (entry.2.values.get entry.1).isSome

theorem Dataset.length_measured_cons (dataset : Dataset) (metric : Metric) (metrics : List Metric) :
    (dataset.measured (metric :: metrics)).length =
      (dataset.measurements.filterMap fun measurement => measurement.values.get metric).length +
        (dataset.measured metrics).length := by
  have ofMetric : ((dataset.measurements.map (Prod.mk metric)).filter fun entry =>
      (entry.2.values.get entry.1).isSome).length =
        (dataset.measurements.filterMap fun measurement => measurement.values.get metric).length := by
    rw [← List.countP_eq_length_filter, List.countP_map, List.length_filterMap_eq_countP]
    rfl
  rw [← ofMetric, measured, List.product_cons, List.filter_append, List.length_append]
  rfl

/-- The values that measurements from a place on have of a metric, each with its place. -/
def Dataset.numberedFrom (start : Nat) (measurements : List Measurement) (metric : Metric) :
    List (Nat × Binary64) :=
  (measurements.zipIdx start).filterMap fun entry =>
    (entry.1.values.get metric).map fun value => (entry.2, value)

theorem Dataset.values_of_numberedFrom (start : Nat) (measurements : List Measurement)
    (metric : Metric) :
    (numberedFrom start measurements metric).map Prod.snd =
      measurements.filterMap fun measurement => measurement.values.get metric := by
  conv => rhs; rw [← List.zipIdx_map_fst start measurements]
  rw [numberedFrom, List.map_filterMap, List.filterMap_map]
  apply List.filterMap_congr
  intro entry _
  simp [Function.comp_def]

namespace Chart

variable {chart : Chart} {dataset : Dataset} {metric : Metric} {index : Nat}

/-! ## One metric -/

theorem placed_eq : chart.placed dataset metric index =
    (dataset.measurements.zip dataset.ticks).filterMap fun (measurement, tick) =>
      (measurement.values.get metric).map fun value => (tick + chart.shift index, value) := by
  rw [placed, Dataset.points, List.map_filterMap]
  apply List.filterMap_congr
  intro entry _
  simp [Function.comp_def]

theorem placed_values : (chart.placed dataset metric index).map Prod.snd =
    dataset.measurements.filterMap fun measurement => measurement.values.get metric := by
  rw [placed, dataset.points_eq, List.map_map, List.map_map, ← Dataset.values_of_numberedFrom 0]
  rfl

theorem series?_kind {series : Series}
    (laidOut : chart.series? dataset metric index = some series) : series.kind = chart.kind := by
  obtain ⟨kind, colors, _, rfl⟩ | ⟨kind, color, _, rfl⟩ := chart.series?_cases dataset laidOut
  · exact kind.symm
  · exact kind.symm

/-- The marks of a series are what its metric has placed. -/
theorem marks_of_series? {series : Series}
    (laidOut : chart.series? dataset metric index = some series) :
    series.marks = chart.placed dataset metric index := by
  obtain ⟨_, positions, values⟩ := chart.series?_marks dataset laidOut
  rw [Series.marks, positions, values, List.zip_map', List.map_id']

theorem series?_draws {series : Series}
    (laidOut : chart.series? dataset metric index = some series) :
    series.Draws chart dataset.measurements dataset.ticks metric index := by
  obtain ⟨label, positions, values⟩ := chart.series?_marks dataset laidOut
  exact {
    label
    kind := series?_kind laidOut
    values := values.trans placed_values
    marks := (marks_of_series? laidOut).trans placed_eq
    paired := by rw [positions, values, List.length_map, List.length_map] }

theorem valueLabels?_tell {labels : List ValueLabel}
    (written : chart.valueLabels? dataset metric index = some labels) :
    List.Forall₂ (fun mark label => label.Tells chart mark) (chart.placed dataset metric index)
      labels := by
  rw [valueLabels?, mapM_eq_some_iff] at written
  refine written.imp fun mark label labelled => ?_
  simp only [valueLabel?, Option.bind_eq_bind, Option.bind_eq_some_iff, Option.pure_def,
    Option.some.injEq] at labelled
  obtain ⟨text, rendered, rfl⟩ := labelled
  exact ⟨rfl, rfl, rendered⟩

/-! ## All metrics -/

section

variable {entries : List (Metric × Nat)} {series : List Series}
  (drawn : List.Forall₂ (fun entry one => chart.series? dataset entry.1 entry.2 = some one) entries
    series)
include drawn

/-- The marks of all series stand in the order of their metrics. -/
theorem marks_of_entries : series.flatMap Series.marks =
    entries.flatMap fun entry => chart.placed dataset entry.1 entry.2 := by
  induction drawn with
  | nil => rfl
  | cons first _ inductionHypothesis =>
    rw [List.flatMap_cons, List.flatMap_cons, marks_of_series? first, inductionHypothesis]

theorem labels_of_entries {labels : List (List ValueLabel)}
    (written : List.Forall₂ (fun entry own => chart.valueLabels? dataset entry.1 entry.2 = some own)
      entries labels) :
    List.Forall₂ (fun mark label => label.Tells chart mark) (series.flatMap Series.marks)
      labels.flatten := by
  -- What is placed does not depend on the series, so that the induction goes over the labels alone.
  rw [marks_of_entries drawn]
  clear drawn
  induction written with
  | nil => exact .nil
  | cons first _ inductionHypothesis =>
    exact List.rel_append (valueLabels?_tell first) inductionHypothesis

theorem length_marks_of_entries :
    (series.flatMap Series.marks).length = (series.flatMap Series.positions).length := by
  induction drawn with
  | nil => rfl
  | cons first _ inductionHypothesis =>
    have paired := (series?_draws first).paired
    rw [List.flatMap_cons, List.flatMap_cons, List.length_append, List.length_append,
      inductionHypothesis, Series.marks, List.length_zip, ← paired, Nat.min_self]

/-- There are as many marks as there are values of the metrics. -/
theorem length_positions_of_entries : (series.flatMap Series.positions).length =
    (dataset.measured (entries.map Prod.fst)).length := by
  induction drawn with
  | nil => rfl
  | cons first _ inductionHypothesis =>
    have draws := series?_draws first
    rw [List.flatMap_cons, List.length_append, inductionHypothesis, draws.paired, draws.values,
      List.map_cons, dataset.length_measured_cons]

end

/-- A chart that has a layout draws every value that is there once, and labels it once with itself: the
layout has a tick for each measurement and a series for each entry of the metrics, and the labels follow
one another as the marks of the series do. -/
theorem each_value_is_drawn_and_labelled_once {layout : Chart.Layout}
    (laidOut : chart.layout? dataset = some layout) :
    layout.ticks = (List.range dataset.measurements.length).map Binary64.ofNat ∧
      layout.tickLabels = dataset.measurements.map Measurement.scenario ∧
      List.Forall₂
        (fun entry series => series.Draws chart dataset.measurements layout.ticks entry.1 entry.2)
        chart.metrics.zipIdx layout.series ∧
      List.Forall₂ (fun mark label => label.Tells chart mark)
        (layout.series.flatMap Series.marks) layout.valueLabels ∧
      layout.elementCount = layout.valueLabels.length ∧
      layout.elementCount = (dataset.measured chart.metrics).length := by
  obtain ⟨series, labels, drawn, written, rfl⟩ := (chart.layout?_eq_some_iff dataset layout).mp laidOut
  have told := labels_of_entries drawn written
  have marks := length_marks_of_entries drawn
  have counted := length_positions_of_entries drawn
  rw [List.zipIdx_map_fst] at counted
  refine ⟨rfl, rfl, drawn.imp fun _ _ made => series?_draws made, told, ?_, counted⟩
  exact marks.symm.trans told.length_eq

/-- Three measurements, of which each lacks some value. -/
def gappyDataset : Dataset where
  measurements :=
    [⟨"Uniform", ⟨some 326.5, none, none⟩⟩, ⟨"Hot-Spot", Values.none⟩,
      ⟨"Mixed", ⟨some 402.9, some 41.3, none⟩⟩]

/-- Bars of three metrics, of which one is a repetition and would be refused. -/
def repeatingChart : Chart where
  title := "Load"
  kind := .bar
  metrics := [.throughput, .p95Latency, .throughput]
  xLabel := none
  yLabel := ""
  labelFormat := ⟨"%.0f", [.fixed 0]⟩
  yMax := none
  labelOffset := 5
  colors := none

/-- A metric that occurs twice is drawn and labelled twice. -/
theorem repeated_metric_is_drawn_twice :
    ∃ layout, repeatingChart.layout? gappyDataset = some layout ∧ layout.ticks = [0, 1, 2] ∧
      layout.tickLabels = ["Uniform", "Hot-Spot", "Mixed"] ∧
      layout.series.map Series.values = [[326.5, 402.9], [41.3], [326.5, 402.9]] ∧
      layout.valueLabels.length = 5 ∧ layout.elementCount = 5 := by
  obtain ⟨layout, laidOut⟩ : ∃ layout, repeatingChart.layout? gappyDataset = some layout :=
    Option.isSome_iff_exists.mp (by decide +kernel)
  obtain ⟨ticks, tickLabels, draws, _, labels, elements⟩ :=
    each_value_is_drawn_and_labelled_once laidOut
  have five : (gappyDataset.measured repeatingChart.metrics).length = 5 := by decide +kernel
  have values := map_eq_map_of_forall₂ (draws.imp fun _ _ drawn => drawn.values.symm)
  refine ⟨layout, laidOut, ticks, tickLabels, ?_, ?_, ?_⟩
  · exact values.symm
  · rw [← labels, elements, five]
  · rw [elements, five]

end Chart

end LoadReport
