import LoadReport.Layout
import LoadReport.Proofs.Loading

/-!
# What a layout shows

A layout is read like the image it stands for: a bar or point belongs to the scenario at whose tick it
stands, and shows its value. `Figure.Depicts` says that what is read this way from all charts is what
was found for the scenarios; `Figure.depicts_of_layout?` that every layout of what was found does.
-/

namespace LoadReport

open Outcomes

namespace Series

def label : Series → String
  | bars label _ _ _ _ => label
  | line label _ _ _ => label

def values : Series → List Binary64
  | bars _ _ heights _ _ => heights
  | line _ _ y _ => y

/-- Only bars have a width. -/
def width? : Series → Option Binary64
  | bars _ _ _ width _ => some width
  | line _ _ _ _ => none

end Series

/-- A mark that stands at a position with a value belongs to the scenario whose tick is there, up to the
shift that all marks of its series have. -/
def Chart.Layout.Reads (layout : Chart.Layout) (shift : Binary64) (mark : Binary64 × Binary64)
    (entry : String × Binary64) : Prop :=
  ∃ tick, (entry.1, tick) ∈ layout.tickLabels.zip layout.ticks ∧
    mark = (tick + shift, entry.2)

/-- A series shows labelled values if its marks, read one after the other, are these values. -/
structure Series.Shows (series : Series) (layout : Chart.Layout) (shift : Binary64) (metric : Metric)
    (entries : List (String × Binary64)) : Prop where
  label : series.label = metric.name
  paired : series.positions.length = series.values.length
  read : List.Forall₂ (layout.Reads shift) (series.positions.zip series.values) entries

/-- A chart's layout depicts scenarios if it has a tick for each that is found, and a series for each
metric that shows the values of exactly those that have it. -/
structure Chart.Depicts (chart : Chart) (tree : FileTree) (scenarios : List Scenario)
    (layout : Chart.Layout) : Prop where
  tickLabels : layout.tickLabels = (scenarios.filter (Scenario.isFound tree)).map Scenario.label
  distinct : layout.tickLabels.Nodup
  ticks : layout.ticks = (List.range layout.tickLabels.length).map Binary64.ofNat
  series : List.Forall₂
    (fun entry series => series.Shows layout (chart.shift entry.2) entry.1
      (scenarios.filterMap fun scenario =>
        (scenario.value? tree entry.1).map (scenario.label, ·)))
    chart.metrics.zipIdx layout.series

/-- A figure's layout depicts scenarios if it is what the figure asks for and each chart does. -/
structure Figure.Depicts (figure : Figure) (tree : FileTree) (scenarios : List Scenario)
    (layout : Figure.Layout) : Prop where
  output : layout.output = figure.output
  resolution : layout.resolution = figure.resolution
  size : layout.size = figure.size
  charts : List.Forall₂ (fun chart drawn => chart.Depicts tree scenarios drawn) figure.charts
    layout.charts

theorem points_tell (metric : Metric) (measurements : List Measurement) (ticks : List Binary64)
    (enough : measurements.length ≤ ticks.length) :
    List.Forall₂
      (fun point entry => (entry.1, point.1) ∈ (measurements.map Measurement.scenario).zip ticks ∧
        point.2 = entry.2)
      ((measurements.zip ticks).filterMap fun (measurement, tick) =>
        (measurement.values.get metric).map fun value => (tick, value))
      (measurements.filterMap fun measurement =>
        (measurement.values.get metric).map (measurement.scenario, ·)) := by
  induction measurements generalizing ticks with
  | nil => exact .nil
  | cons measurement rest inductionHypothesis =>
    cases ticks with
    | nil => simp at enough
    | cons tick ticks =>
      have others := inductionHypothesis ticks (Nat.le_of_succ_le_succ enough)
      have weakened := others.imp fun point entry told =>
        And.intro (List.mem_cons_of_mem (measurement.scenario, tick) told.1) told.2
      -- A measurement without the metric takes its tick away with it.
      simp only [List.zip_cons_cons, List.map_cons, List.filterMap_cons]
      cases found : measurement.values.get metric with
      | none => exact weakened
      | some value => exact .cons ⟨List.mem_cons_self, rfl⟩ weakened

/-! ## Values and where they stand -/

namespace Dataset

variable (dataset : Dataset) (metric : Metric)

/-- The values of a metric, each with the index of its measurement. -/
def numbered : List (Nat × Binary64) :=
  dataset.measurements.zipIdx.filterMap fun entry =>
    (entry.1.values.get metric).map fun value => (entry.2, value)

theorem points_eq :
    dataset.points metric =
      (dataset.numbered metric).map fun entry => (Binary64.ofNat entry.1, entry.2) := by
  have ticks : dataset.measurements.zip dataset.ticks =
      dataset.measurements.zipIdx.map fun entry => (entry.1, Binary64.ofNat entry.2) := by
    rw [List.zipIdx_eq_zip_range', List.range'_eq_map_range]
    simp [ticks, size, List.zip_map_right]
  rw [points, numbered, ticks, List.filterMap_map, List.map_filterMap]
  apply List.filterMap_congr
  intro entry _
  simp [Function.comp_def]

theorem indices_eq : dataset.indices metric = (dataset.numbered metric).map Prod.fst := by
  rw [indices, numbered, List.map_filterMap, ← List.filterMap_eq_map, ← List.filterMap_eq_filter,
    List.filterMap_filterMap]
  apply List.filterMap_congr
  intro entry _
  cases found : entry.1.values.get metric with
  | none => simp [Option.guard, found]
  | some value => simp [Option.guard, found]

theorem exists_mem_numbered_iff (value : Binary64) :
    (∃ index, (index, value) ∈ dataset.numbered metric) ↔
      ∃ measurement ∈ dataset.measurements, measurement.values.get metric = some value := by
  simp only [numbered, List.mem_filterMap, Option.map_eq_some_iff, Prod.mk.injEq]
  constructor
  · intro drawn
    obtain ⟨_, ⟨measurement, _⟩, member, _, measured, _, rfl⟩ := drawn
    exact ⟨measurement, List.fst_mem_of_mem_zipIdx member, measured⟩
  · intro given
    obtain ⟨measurement, member, measured⟩ := given
    obtain ⟨index, stands⟩ := List.mem_iff_getElem?.mp member
    have paired := List.mk_mem_zipIdx_iff_getElem?.mpr stands
    exact ⟨index, (measurement, index), paired, value, measured, rfl, rfl⟩

theorem lt_size_of_mem_numbered {entry : Nat × Binary64}
    (member : entry ∈ dataset.numbered metric) : entry.1 < dataset.size := by
  simp only [numbered, List.mem_filterMap, Option.map_eq_some_iff] at member
  obtain ⟨paired, member, _, _, rfl⟩ := member
  exact List.snd_lt_of_mem_zipIdx member

end Dataset

namespace Chart

variable (chart : Chart) (dataset : Dataset)

/-- What a series is, for each kind of chart. -/
theorem series?_cases {metric : Metric} {index : Nat} {series : Series}
    (laidOut : chart.series? dataset metric index = some series) :
    let points := chart.placed dataset metric index
    let x := points.map Prod.fst
    let values := points.map Prod.snd
    (chart.kind = .bar ∧ ∃ colors,
        chart.barColors? dataset metric index points.length = some colors ∧
        series = .bars metric.name x values chart.barWidth colors) ∨
      chart.kind = .line ∧ ∃ color, chart.color? index = some color ∧
        series = .line metric.name x values color := by
  intro points x values
  unfold series? at laidOut
  cases kind : chart.kind with
  | bar =>
    simp only [kind, Option.bind_eq_bind, Option.bind_eq_some_iff] at laidOut
    obtain ⟨colors, colored, equal⟩ := laidOut
    exact .inl ⟨rfl, colors, colored, (Option.some.inj equal).symm⟩
  | line =>
    simp only [kind, Option.bind_eq_bind, Option.bind_eq_some_iff] at laidOut
    obtain ⟨color, colored, equal⟩ := laidOut
    exact .inr ⟨rfl, color, colored, (Option.some.inj equal).symm⟩

theorem series?_marks {metric : Metric} {index : Nat} {series : Series}
    (laidOut : chart.series? dataset metric index = some series) :
    series.label = metric.name ∧
      series.positions = (chart.placed dataset metric index).map Prod.fst ∧
      series.values = (chart.placed dataset metric index).map Prod.snd := by
  obtain ⟨_, colors, _, rfl⟩ | ⟨_, color, _, rfl⟩ := chart.series?_cases dataset laidOut
  · exact ⟨rfl, rfl, rfl⟩
  · exact ⟨rfl, rfl, rfl⟩

theorem series?_width {metric : Metric} {index : Nat} {series : Series}
    (laidOut : chart.series? dataset metric index = some series) :
    series.width? = if chart.kind = .bar then some chart.barWidth else none := by
  obtain ⟨bar, colors, _, rfl⟩ | ⟨line, color, _, rfl⟩ := chart.series?_cases dataset laidOut
  · rw [if_pos bar]
    rfl
  · rw [if_neg (by rw [line]; exact nofun)]
    rfl

theorem layout?_eq_some_iff (layout : Chart.Layout) :
    chart.layout? dataset = some layout ↔
      ∃ series labels,
        List.Forall₂ (fun entry drawn => chart.series? dataset entry.1 entry.2 = some drawn)
          chart.metrics.zipIdx series ∧
        List.Forall₂ (fun entry drawn => chart.valueLabels? dataset entry.1 entry.2 = some drawn)
          chart.metrics.zipIdx labels ∧
        layout = {
          title := chart.title
          xLabel := chart.xLabel
          yLabel := chart.yLabel
          yMax := chart.yMax
          ticks := dataset.ticks
          tickLabels := dataset.labels
          series
          valueLabels := labels.flatten
          legend := decide (1 < chart.metrics.length) } := by
  simp only [layout?, numbered, Option.bind_eq_bind, Option.bind_eq_some_iff, mapM_eq_some_iff,
    Option.pure_def, Option.some.injEq, exists_and_left]
  constructor
  · intro made
    obtain ⟨series, drawn, labels, written, equal⟩ := made
    exact ⟨series, drawn, labels, written, equal.symm⟩
  · intro made
    obtain ⟨series, drawn, labels, written, equal⟩ := made
    exact ⟨series, drawn, labels, written, equal.symm⟩

end Chart

theorem Figure.layout?_eq_some_iff (figure : Figure) (dataset : Dataset) (layout : Figure.Layout) :
    figure.layout? dataset = some layout ↔
      ∃ charts, List.Forall₂ (fun chart drawn => chart.layout? dataset = some drawn) figure.charts
          charts ∧
        layout = {
          output := figure.output
          resolution := figure.resolution
          size := figure.size
          charts } := by
  simp only [layout?, Option.bind_eq_bind, Option.bind_eq_some_iff, mapM_eq_some_iff,
    Option.pure_def, Option.some.injEq]
  exact exists_congr fun charts => and_congr_right fun _ => eq_comm

section

variable {tree : FileTree} {part : Section} {dataset : Dataset}
  (same : dataset.measurements = part.found tree)
include same

theorem Chart.placed_reads (chart : Chart) {layout : Chart.Layout}
    (tickLabels : layout.tickLabels = dataset.labels) (ticks : layout.ticks = dataset.ticks)
    (metric : Metric) (index : Nat) :
    List.Forall₂ (layout.Reads (chart.shift index)) (chart.placed dataset metric index)
      (part.scenarios.filterMap fun scenario =>
        (scenario.value? tree metric).map (scenario.label, ·)) := by
  rw [← part.values_of_found tree metric, ← same, Chart.placed, List.forall₂_map_left_iff]
  have enough : dataset.measurements.length ≤ dataset.ticks.length := by
    simp [Dataset.ticks, Dataset.size]
  refine (points_tell metric dataset.measurements dataset.ticks enough).imp ?_
  intro point entry told
  obtain ⟨standing, same⟩ := told
  rw [Chart.Layout.Reads, tickLabels, ticks]
  exact ⟨point.1, standing, by rw [← same]⟩

theorem Chart.depicts_of_layout? {chart : Chart} {layout : Chart.Layout}
    (distinct : dataset.labels.Nodup) (laidOut : chart.layout? dataset = some layout) :
    chart.Depicts tree part.scenarios layout := by
  obtain ⟨series, labels, drawn, _, rfl⟩ := (chart.layout?_eq_some_iff dataset layout).mp laidOut
  refine ⟨?_, distinct, ?_, ?_⟩
  · rw [← part.labels_of_found, ← same, Dataset.labels]
  · simp [Dataset.ticks, Dataset.size, Dataset.labels]
  · refine drawn.imp fun entry series made => ?_
    obtain ⟨label, positions, values⟩ := chart.series?_marks dataset made
    refine ⟨label, by rw [positions, values, List.length_map, List.length_map], ?_⟩
    rw [positions, values, List.zip_map', List.map_id']
    exact Chart.placed_reads same chart rfl rfl entry.1 entry.2

/-- The layout of a figure depicts the scenarios whose measurements it is made from. -/
theorem Figure.depicts_of_layout? {figure : Figure} {layout : Figure.Layout}
    (distinct : dataset.labels.Nodup) (laidOut : figure.layout? dataset = some layout) :
    figure.Depicts tree part.scenarios layout := by
  obtain ⟨charts, drawn, rfl⟩ := (figure.layout?_eq_some_iff dataset layout).mp laidOut
  exact ⟨rfl, rfl, rfl, drawn.imp fun chart layout made =>
    Chart.depicts_of_layout? same distinct made⟩

end

end LoadReport
