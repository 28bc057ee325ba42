import LoadReport.Proofs.Binary64.Finite
import LoadReport.Proofs.Config.WellFormed
import LoadReport.Proofs.Layout.Depiction

/-!
# Numbers of a layout

Everything that stands in a chart stands where the number of scenarios and metrics puts it, and all that
is measured or asked for has been checked. Only the heights of value labels are sums of two numbers of
any size, and so only they can overflow.

* `Chart.valueLabels_of_layout?` — where the labels of a chart stand.
* `Chart.frame_isFinite` — everything but the heights of labels is finite.
* `Chart.labelHeights_isFinite_iff` — when these are, too.
-/

namespace LoadReport

open Outcomes

namespace Series

def numbers (series : Series) : List Binary64 :=
  series.width?.toList ++ series.positions ++ series.values

end Series

namespace Chart.Layout

/-- The numbers of a chart but for the heights of its labels. -/
def frame (layout : Chart.Layout) : List Binary64 :=
  layout.yMax.toList ++ layout.ticks ++ layout.series.flatMap Series.numbers ++
    layout.valueLabels.map ValueLabel.x

def labelHeights (layout : Chart.Layout) : List Binary64 :=
  layout.valueLabels.map ValueLabel.y

end Chart.Layout

/-- All numbers of a figure. -/
def Figure.Layout.numbers (layout : Figure.Layout) : List Binary64 :=
  [layout.size.1, layout.size.2] ++
    layout.charts.flatMap fun chart => chart.frame ++ chart.labelHeights

/-- The label of a value stands at a finite height. -/
def Chart.LabelFits (chart : Chart) (value : Binary64) : Prop :=
  value.inUnits + chart.labelOffset.inUnits < Binary64.overflowUnits

instance (chart : Chart) (value : Binary64) : Decidable (chart.LabelFits value) :=
  inferInstanceAs (Decidable (_ < _))

/-- All labels of a chart stand at finite heights. -/
def Chart.LabelsFit (chart : Chart) (dataset : Dataset) : Prop :=
  ∀ metric ∈ chart.metrics, ∀ measurement ∈ dataset.measurements,
    ∀ value ∈ measurement.values.get metric, chart.LabelFits value

instance (chart : Chart) (dataset : Dataset) : Decidable (chart.LabelsFit dataset) :=
  inferInstanceAs (Decidable (∀ metric ∈ chart.metrics, ∀ measurement ∈ dataset.measurements,
    ∀ value ∈ measurement.values.get metric, chart.LabelFits value))

/-! ## Slots -/

theorem Metric.length_le_of_nodup {metrics : List Metric} (distinct : metrics.Nodup) :
    metrics.length ≤ 3 :=
  (distinct.subperm fun metric _ => metric.mem_all).length_le

/-- The bars of at most three metrics have a width, and stand within one of the centre. -/
theorem slot_isFinite :
    ∀ count ∈ [1, 2, 3], (Slot.barWidth count : Binary64).isFinite = true ∧
      ∀ index < count, (Slot.barShift index count : Binary64).isFinite = true ∧
        (Slot.barShift index count : Binary64).inUnits.natAbs ≤ Binary64.unitsPerOne := by
  decide +kernel

namespace Chart

variable {chart : Chart} {dataset : Dataset}

section

variable (wellFormed : chart.WellFormed)
include wellFormed

theorem length_metrics_mem : chart.metrics.length ∈ [1, 2, 3] := by
  have most := Metric.length_le_of_nodup wellFormed.distinct
  have some := List.length_pos_of_ne_nil wellFormed.shows
  simp only [List.mem_cons, List.not_mem_nil, or_false]
  omega

theorem barWidth_isFinite : chart.barWidth.isFinite = true :=
  (slot_isFinite _ (length_metrics_mem wellFormed)).1

theorem shift_isFinite {index : Nat} (inside : index < chart.metrics.length) :
    (chart.shift index).isFinite = true ∧
      (chart.shift index).inUnits.natAbs ≤ Binary64.unitsPerOne := by
  obtain ⟨_, shifts⟩ := slot_isFinite _ (length_metrics_mem wellFormed)
  rw [shift]
  cases chart.kind with
  | bar => exact shifts index inside
  | line =>
    change (0 : Binary64).isFinite = true ∧ (0 : Binary64).inUnits.natAbs ≤ _
    decide +kernel

end

/-! ## Labels -/

theorem valueLabels?_points {metric : Metric} {index : Nat} {labels : List ValueLabel}
    (drawn : chart.valueLabels? dataset metric index = some labels) :
    labels.map (fun label => (label.x, label.y)) =
      (chart.placed dataset metric index).map fun point =>
        (point.1, point.2 + chart.labelOffset) := by
  rw [valueLabels?, mapM_eq_some_iff] at drawn
  generalize chart.placed dataset metric index = points at drawn ⊢
  induction drawn with
  | nil => rfl
  | cons labelled _ inductionHypothesis =>
    simp only [valueLabel?, Option.bind_eq_bind, Option.bind_eq_some_iff, Option.pure_def,
      Option.some.injEq] at labelled
    obtain ⟨text, _, rfl⟩ := labelled
    simp only [List.map_cons, inductionHypothesis]

/-- A label stands at its point, and above it by the offset. -/
theorem valueLabels_of_layout? {layout : Chart.Layout}
    (laidOut : chart.layout? dataset = some layout) :
    layout.valueLabels.map (fun label => (label.x, label.y)) =
      chart.metrics.zipIdx.flatMap fun entry =>
        (chart.placed dataset entry.1 entry.2).map fun point =>
          (point.1, point.2 + chart.labelOffset) := by
  obtain ⟨_, labels, _, drawn, rfl⟩ := (chart.layout?_eq_some_iff dataset layout).mp laidOut
  clear laidOut
  change labels.flatten.map _ = _
  generalize chart.metrics.zipIdx = entries at drawn ⊢
  induction drawn with
  | nil => rfl
  | cons first _ inductionHypothesis =>
    rw [List.flatten_cons, List.map_append, List.flatMap_cons, valueLabels?_points first,
      inductionHypothesis]

theorem forall_valueLabels_iff {layout : Chart.Layout}
    (laidOut : chart.layout? dataset = some layout) (property : Binary64 → Binary64 → Prop) :
    (∀ label ∈ layout.valueLabels, property label.x label.y) ↔
      ∀ entry ∈ chart.metrics.zipIdx, ∀ point ∈ chart.placed dataset entry.1 entry.2,
        property point.1 (point.2 + chart.labelOffset) := by
  have views : (∀ label ∈ layout.valueLabels, property label.x label.y) ↔
      ∀ view ∈ layout.valueLabels.map fun label => (label.x, label.y), property view.1 view.2 := by
    rw [List.forall_mem_map]
  rw [views, valueLabels_of_layout? laidOut]
  simp only [List.forall_mem_flatMap, List.forall_mem_map]

/-- The values of a chart are those that the measurements have of its metrics. -/
theorem forall_placed_iff (property : Binary64 → Prop) :
    (∀ entry ∈ chart.metrics.zipIdx, ∀ point ∈ chart.placed dataset entry.1 entry.2,
        property point.2) ↔
      ∀ metric ∈ chart.metrics, ∀ measurement ∈ dataset.measurements,
        ∀ value ∈ measurement.values.get metric, property value := by
  simp only [placed, dataset.points_eq, List.map_map, List.forall_mem_map, Function.comp_apply]
  constructor
  · intro all metric shown measurement member value measured
    obtain ⟨index, stands⟩ := List.mem_iff_getElem?.mp shown
    obtain ⟨position, numbered⟩ :=
      (dataset.exists_mem_numbered_iff metric value).mpr ⟨measurement, member, measured⟩
    exact all (metric, index) (List.mk_mem_zipIdx_iff_getElem?.mpr stands) _ numbered
  · intro all entry member numbered among
    obtain ⟨measurement, measured, value⟩ :=
      (dataset.exists_mem_numbered_iff entry.1 numbered.2).mp ⟨numbered.1, among⟩
    exact all entry.1 (List.fst_mem_of_mem_zipIdx member) measurement measured _ value

/-! ## Charts -/

section

variable (wellFormed : chart.WellFormed) (short : dataset.size ≤ twoTo 64)
  (inRange : ∀ measurement ∈ dataset.measurements, measurement.check = .ok ())
include wellFormed short inRange

/-- What is drawn of a measurement in range is a number from zero on, at a finite position. -/
theorem placed_isFinite {entry : Metric × Nat} (member : entry ∈ chart.metrics.zipIdx)
    {point : Binary64 × Binary64} (drawn : point ∈ chart.placed dataset entry.1 entry.2) :
    point.1.isFinite = true ∧ point.2.isFinite = true ∧ 0 ≤ point.2 := by
  rw [placed, dataset.points_eq, List.map_map, List.mem_map] at drawn
  obtain ⟨numbered, among, rfl⟩ := drawn
  have position := dataset.lt_size_of_mem_numbered entry.1 among
  obtain ⟨measurement, measured, value⟩ :=
    (dataset.exists_mem_numbered_iff entry.1 numbered.2).mp ⟨numbered.1, among⟩
  have valueInRange := (measurement.check_eq_ok_iff).mp (inRange measurement measured) entry.1 _ value
  obtain ⟨shift, small⟩ := shift_isFinite wellFormed (List.snd_lt_of_mem_zipIdx member)
  exact ⟨Binary64.ofNat_add_isFinite (position.le.trans short) shift small, valueInRange.finite,
    valueInRange.zero_le⟩

theorem series_isFinite {entry : Metric × Nat} (member : entry ∈ chart.metrics.zipIdx)
    {series : Series} (drawn : chart.series? dataset entry.1 entry.2 = some series) :
    ∀ number ∈ series.numbers, number.isFinite = true := by
  obtain ⟨_, positions, values⟩ := series?_marks chart dataset drawn
  simp only [Series.numbers, positions, values, List.forall_mem_append, List.forall_mem_map]
  refine ⟨⟨?_, ?_⟩, ?_⟩
  · intro width given
    rw [Option.mem_toList, series?_width chart dataset drawn] at given
    obtain ⟨_, same⟩ := Option.ite_none_right_eq_some.mp given
    obtain rfl := Option.some.inj same
    exact barWidth_isFinite wellFormed
  · exact fun point among => (placed_isFinite wellFormed short inRange member among).1
  · exact fun point among => (placed_isFinite wellFormed short inRange member among).2.1

variable {layout : Chart.Layout} (laidOut : chart.layout? dataset = some layout)
include laidOut

/-- Everything in a chart is finite but for the heights of its labels. -/
theorem frame_isFinite : ∀ number ∈ layout.frame, number.isFinite = true := by
  have labels := forall_valueLabels_iff laidOut fun x _ => x.isFinite = true
  obtain ⟨series, _, drawn, _, rfl⟩ := (chart.layout?_eq_some_iff dataset layout).mp laidOut
  simp only [Chart.Layout.frame, List.forall_mem_append]
  refine ⟨⟨⟨?_, ?_⟩, ?_⟩, ?_⟩
  · intro number bound
    exact (wellFormed.bound number (Option.mem_toList.mp bound)).1
  · intro number tick
    obtain ⟨index, inside, rfl⟩ := List.mem_map.mp tick
    exact (Binary64.ofNat_isFinite ((List.mem_range.mp inside).le.trans short)).1
  · intro number inSeries
    obtain ⟨one, among, inside⟩ := List.mem_flatMap.mp inSeries
    obtain ⟨entry, member, made⟩ := exists_mem_of_forall₂ drawn among
    exact series_isFinite wellFormed short inRange member made number inside
  · rw [List.forall_mem_map, labels]
    exact fun entry member point among =>
      (placed_isFinite wellFormed short inRange member among).1

theorem labelHeights_isFinite_iff :
    (∀ height ∈ layout.labelHeights, height.isFinite = true) ↔ chart.LabelsFit dataset := by
  obtain ⟨offsetFinite, offsetNonneg⟩ := wellFormed.offset
  have fits {value : Binary64} (finite : value.isFinite = true) (nonneg : 0 ≤ value) :
      (value + chart.labelOffset).isFinite = true ↔ chart.LabelFits value :=
    Binary64.add_isFinite_iff_of_nonneg finite offsetFinite nonneg offsetNonneg
  rw [Chart.Layout.labelHeights, List.forall_mem_map,
    forall_valueLabels_iff laidOut fun _ y => y.isFinite = true, LabelsFit, ← forall_placed_iff]
  refine forall₂_congr fun entry member => forall₂_congr fun point drawn => ?_
  obtain ⟨_, finite, nonneg⟩ := placed_isFinite wellFormed short inRange member drawn
  exact fits finite nonneg

/-- A label that does not stand at a finite height is put infinitely high. -/
theorem labelHeights_finite_or_infinite :
    ∀ height ∈ layout.labelHeights, height.isFinite = true ∨ height = .infinite false := by
  obtain ⟨offsetFinite, offsetNonneg⟩ := wellFormed.offset
  rw [Chart.Layout.labelHeights, List.forall_mem_map,
    forall_valueLabels_iff laidOut fun _ y => y.isFinite = true ∨ y = .infinite false]
  intro entry member point drawn
  obtain ⟨_, finite, nonneg⟩ := placed_isFinite wellFormed short inRange member drawn
  exact Binary64.add_finite_or_infinite finite offsetFinite nonneg offsetNonneg

end

end Chart

/-! ## Figures -/

section

variable {figure : Figure} {dataset : Dataset} (wellFormed : figure.WellFormed)
  (short : dataset.size ≤ twoTo 64)
  (inRange : ∀ measurement ∈ dataset.measurements, measurement.check = .ok ())
  {layout : Figure.Layout} (laidOut : figure.layout? dataset = some layout)
include wellFormed short inRange laidOut

theorem Figure.frame_isFinite :
    ∀ chart ∈ layout.charts, ∀ number ∈ chart.frame, number.isFinite = true := by
  obtain ⟨charts, drawn, rfl⟩ := (figure.layout?_eq_some_iff dataset layout).mp laidOut
  intro chart member
  obtain ⟨one, shown, made⟩ := exists_mem_of_forall₂ drawn member
  exact Chart.frame_isFinite (wellFormed.charts one shown) short inRange made

/-- All numbers of a figure are finite exactly if its size is and all its labels fit. -/
theorem Figure.numbers_isFinite_iff :
    (∀ number ∈ layout.numbers, number.isFinite = true) ↔
      (figure.size.1.isFinite = true ∧ figure.size.2.isFinite = true) ∧
        ∀ chart ∈ figure.charts, chart.LabelsFit dataset := by
  have frames := Figure.frame_isFinite wellFormed short inRange laidOut
  obtain ⟨charts, drawn, rfl⟩ := (figure.layout?_eq_some_iff dataset layout).mp laidOut
  have checked := (List.forall₂_and_left _ _).mpr ⟨wellFormed.charts, drawn⟩
  have heights : List.Forall₂
      (fun (chart : Chart) (drawn : Chart.Layout) =>
        (∀ height ∈ drawn.labelHeights, height.isFinite = true) ↔ chart.LabelsFit dataset)
      figure.charts charts :=
    checked.imp fun chart drawn made =>
      Chart.labelHeights_isFinite_iff made.1 short inRange made.2
  rw [← forall_mem_iff_of_forall₂ heights]
  simp only [Figure.Layout.numbers, List.forall_mem_append, List.forall_mem_cons,
    List.forall_mem_flatMap, List.not_mem_nil, false_implies, implies_true, and_true]
  refine and_congr_right fun _ => forall₂_congr fun chart member => ?_
  exact and_iff_right (frames chart member)

/-- A number of a figure that is not finite is infinite, and above zero. -/
theorem Figure.numbers_finite_or_infinite :
    ∀ number ∈ layout.numbers, number.isFinite = true ∨ number = .infinite false := by
  have frames := Figure.frame_isFinite wellFormed short inRange laidOut
  obtain ⟨charts, drawn, rfl⟩ := (figure.layout?_eq_some_iff dataset layout).mp laidOut
  obtain ⟨width, height⟩ := wellFormed.size
  simp only [Figure.Layout.numbers, List.forall_mem_append, List.forall_mem_cons,
    List.forall_mem_flatMap, List.not_mem_nil, false_implies, implies_true, and_true]
  refine ⟨⟨Binary64.finite_or_infinite_of_pos width, Binary64.finite_or_infinite_of_pos height⟩, ?_⟩
  intro chart member
  obtain ⟨one, shown, made⟩ := exists_mem_of_forall₂ drawn member
  refine ⟨fun number inside => .inl (frames chart member number inside), ?_⟩
  exact Chart.labelHeights_finite_or_infinite (wellFormed.charts one shown) short inRange made

end

end LoadReport
