import LoadReport.Layout
import LoadReport.Proofs.Outcomes

/-!
# Which layouts exist

Two things can keep a chart from having a layout: a colour that is taken from an empty list, and a
label that asks for more places than can be written out. Neither matters unless it is really needed,
and `Chart.layout?_eq_none_iff` says exactly when that is.
-/

namespace LoadReport

open Outcomes

/-! ## Labels -/

namespace LabelFormat

/-- A conversion asks for more places than can be written out. -/
def Overlong (format : LabelFormat) : Prop :=
  ∃ places, Piece.fixed places ∈ format.pieces ∧ writablePlaces < places

variable (value : Binary64)

theorem Piece.render?_eq_none_iff (piece : Piece) :
    piece.render? value = none ↔ ∃ places, piece = .fixed places ∧ writablePlaces < places := by
  cases piece with
  | literal character => simp [render?]
  | fixed places => simp [render?]
  | integer => simp [render?]

theorem renderPieces?_eq_none_iff (pieces : List Piece) :
    renderPieces? value pieces = none ↔
      ∃ places, Piece.fixed places ∈ pieces ∧ writablePlaces < places := by
  induction pieces with
  | nil => simp [renderPieces?]
  | cons piece rest inductionHypothesis =>
    have head := Piece.render?_eq_none_iff value piece
    cases rendered : piece.render? value with
    | none =>
      obtain ⟨places, rfl, overlong⟩ := head.mp rendered
      simp only [renderPieces?, rendered, Option.bind_eq_bind, Option.bind_none, true_iff]
      exact ⟨places, List.mem_cons_self, overlong⟩
    | some text =>
      have others : renderPieces? value (piece :: rest) = none ↔ renderPieces? value rest = none := by
        cases remaining : renderPieces? value rest <;> simp [renderPieces?, rendered, remaining]
      rw [others, inductionHypothesis]
      constructor
      · intro found
        obtain ⟨places, member, overlong⟩ := found
        exact ⟨places, List.mem_cons_of_mem piece member, overlong⟩
      · intro found
        obtain ⟨places, member, overlong⟩ := found
        obtain rfl | member := List.mem_cons.mp member
        · cases rendered.symm.trans (head.mpr ⟨places, rfl, overlong⟩)
        · exact ⟨places, member, overlong⟩

theorem render?_eq_none_iff (format : LabelFormat) :
    format.render? value = none ↔ format.Overlong :=
  renderPieces?_eq_none_iff value format.pieces

end LabelFormat

/-! ## Values -/

namespace Dataset

variable (dataset : Dataset) (metric : Metric)

/-- Some scenario has a value of a metric. -/
def Has (dataset : Dataset) (metric : Metric) : Prop :=
  ∃ measurement ∈ dataset.measurements, (measurement.values.get metric).isSome

theorem exists_point_iff : (∃ point, point ∈ dataset.points metric) ↔ dataset.Has metric := by
  have paired : (dataset.measurements.zip dataset.ticks).map Prod.fst = dataset.measurements := by
    apply List.map_fst_zip
    simp [ticks, size]
  rw [Has, ← exists_mem_of_views paired fun measurement => (measurement.values.get metric).isSome]
  simp only [points, List.mem_filterMap]
  rw [exists_comm]
  simp [Option.isSome_iff_exists, -Prod.exists]

theorem exists_index_iff : (∃ index, index ∈ dataset.indices metric) ↔ dataset.Has metric := by
  rw [Has, ← exists_mem_of_views (List.zipIdx_map_fst 0 dataset.measurements)
    fun measurement => (measurement.values.get metric).isSome]
  simp only [indices, List.mem_map, List.mem_filter]
  rw [exists_comm]
  simp [-Prod.exists]

end Dataset

/-! ## Charts -/

namespace Chart

variable (chart : Chart) (dataset : Dataset)

theorem color?_eq_none_iff (index : Nat) : chart.color? index = none ↔ chart.colors = some [] := by
  cases chosen : chart.colors with
  | none => simp [color?, chosen]
  | some colors => simp [color?, chosen, Palette.cycle?_eq_none_iff]

theorem barColors?_eq_none_iff (metric : Metric) (index count : Nat) :
    chart.barColors? dataset metric index count = none ↔
      chart.colors = some [] ∧ (chart.metrics.length = 1 → dataset.Has metric) := by
  by_cases single : chart.metrics.length = 1
  · simp only [barColors?, single, if_true, mapM_eq_none_iff, color?_eq_none_iff, exists_and_right,
      dataset.exists_index_iff metric, forall_const]
    exact and_comm
  · simp [barColors?, single, color?_eq_none_iff]

/-- A chart paints a metric if its series takes a colour: all do but those of a single metric that has
no bars. -/
def Paints (chart : Chart) (dataset : Dataset) (metric : Metric) : Prop :=
  chart.kind = .bar → chart.metrics.length = 1 → dataset.Has metric

theorem series?_eq_none_iff (metric : Metric) (index : Nat) :
    chart.series? dataset metric index = none ↔
      chart.colors = some [] ∧ chart.Paints dataset metric := by
  cases kind : chart.kind with
  | bar =>
    simp only [series?, kind, bind_pure_eq_none_iff, barColors?_eq_none_iff, Paints, forall_const]
  | line =>
    simp only [series?, kind, bind_pure_eq_none_iff, color?_eq_none_iff, Paints, reduceCtorEq,
      false_implies, and_true]

theorem valueLabels?_eq_none_iff (metric : Metric) (index : Nat) :
    chart.valueLabels? dataset metric index = none ↔
      chart.labelFormat.Overlong ∧ dataset.Has metric := by
  have label : ∀ point, chart.valueLabel? point = none ↔ chart.labelFormat.Overlong := by
    intro point
    rw [valueLabel?, bind_pure_eq_none_iff, LabelFormat.render?_eq_none_iff]
  have placed : (∃ point, point ∈ chart.placed dataset metric index) ↔ dataset.Has metric := by
    rw [← dataset.exists_point_iff metric, Chart.placed]
    simp only [List.mem_map]
    rw [exists_comm]
    simp [-Prod.exists]
  simp only [valueLabels?, mapM_eq_none_iff, label, exists_and_right, placed, and_comm]

theorem exists_numbered_iff (property : Metric → Prop) :
    (∃ entry ∈ chart.numbered, property entry.1) ↔ ∃ metric ∈ chart.metrics, property metric :=
  exists_mem_of_views (List.zipIdx_map_fst 0 chart.metrics) property

/-- A chart has no layout exactly if it takes a colour from an empty list or writes a label that is
overlong. -/
theorem layout?_eq_none_iff :
    chart.layout? dataset = none ↔
      (chart.colors = some [] ∧ ∃ metric ∈ chart.metrics, chart.Paints dataset metric) ∨
        (chart.labelFormat.Overlong ∧ ∃ metric ∈ chart.metrics, dataset.Has metric) := by
  have noSeries : (chart.numbered.mapM fun entry => chart.series? dataset entry.1 entry.2) =
      none ↔ chart.colors = some [] ∧ ∃ metric ∈ chart.metrics, chart.Paints dataset metric := by
    rw [mapM_eq_none_iff, ← exists_numbered_iff]
    simp only [series?_eq_none_iff]
    tauto
  have noLabels : (chart.numbered.mapM fun entry =>
      chart.valueLabels? dataset entry.1 entry.2) = none ↔
        chart.labelFormat.Overlong ∧ ∃ metric ∈ chart.metrics, dataset.Has metric := by
    rw [mapM_eq_none_iff, ← exists_numbered_iff]
    simp only [valueLabels?_eq_none_iff]
    tauto
  -- Labels are only reached behind the series, but without either there is no layout.
  rw [← noSeries, ← noLabels]
  cases drawn : chart.numbered.mapM fun entry => chart.series? dataset entry.1 entry.2 with
  | none => simp [layout?, drawn]
  | some series =>
    simp only [layout?, drawn]
    rw [Option.bind_eq_bind, Option.bind_some, bind_pure_eq_none_iff]
    simp

end Chart

theorem Figure.layout?_eq_none_iff (figure : Figure) (dataset : Dataset) :
    figure.layout? dataset = none ↔ ∃ chart ∈ figure.charts, chart.layout? dataset = none := by
  rw [← mapM_eq_none_iff, Figure.layout?, bind_pure_eq_none_iff]

end LoadReport
