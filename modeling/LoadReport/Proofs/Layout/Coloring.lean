import Mathlib.Data.List.Nodup
import LoadReport.Proofs.Layout.Depiction

/-!
# Bars and their colours

Positions, heights and colours of bars are three lists in a layout. All three are views of one list,
the values of a metric with the indices of their measurements, so that a bar takes its colour from the
index that it takes its position from.
-/

namespace LoadReport

open Outcomes

/-- A bar as it stands in a chart. -/
structure Bar where
  position : Binary64
  height : Binary64
  color : Palette.Color
deriving DecidableEq

/-- A series consists of bars. -/
def Series.HasBars (series : Series) (bars : List Bar) : Prop :=
  ∃ label width, series = .bars label (bars.map Bar.position) (bars.map Bar.height) width
    (bars.map Bar.color)

def Series.colors : Series → List Palette.Color
  | bars _ _ _ _ colors => colors
  | line _ _ _ color => [color]

/-- Two indices have the same colour exactly if the palette comes to the same place for both. -/
theorem Palette.color_eq_color_iff (index other : Nat) :
    Palette.color index = Palette.color other ↔
      index % Palette.colors.length = other % Palette.colors.length := by
  have distinct : Palette.colors.Nodup := by decide
  simp only [Palette.color, List.get_eq_getElem, distinct.getElem_inj_iff]
  rfl

namespace Chart

variable {chart : Chart} {dataset : Dataset} {metric : Metric} {index : Nat}

theorem color?_of_plain (plain : chart.colors = none) (index : Nat) :
    chart.color? index = some (Palette.color index) := by
  rw [color?, plain]

theorem barColors?_of_plain (single : chart.metrics.length = 1) (plain : chart.colors = none)
    (count : Nat) :
    chart.barColors? dataset metric index count =
      some ((dataset.indices metric).map Palette.color) := by
  rw [barColors?, if_pos single, mapM_eq_some_iff, List.forall₂_map_right_iff, List.forall₂_same]
  exact fun position _ => color?_of_plain plain position

/-- The bars of a single metric that are coloured by the palette. -/
theorem series?_hasBars (bar : chart.kind = .bar) (single : chart.metrics.length = 1)
    (plain : chart.colors = none) {series : Series}
    (laidOut : chart.series? dataset metric index = some series) :
    series.HasBars ((dataset.numbered metric).map fun entry =>
      ⟨Binary64.ofNat entry.1 + chart.shift index, entry.2, Palette.color entry.1⟩) := by
  obtain ⟨_, colors, colored, rfl⟩ | ⟨line, _⟩ := chart.series?_cases dataset laidOut
  · rw [barColors?_of_plain single plain] at colored
    obtain rfl := Option.some.inj colored
    refine ⟨metric.name, chart.barWidth, ?_⟩
    simp only [placed, dataset.points_eq, dataset.indices_eq, List.map_map, Function.comp_def]
  · rw [bar] at line
    cases line

theorem layout?_hasBars (bar : chart.kind = .bar) (single : chart.metrics = [metric])
    (plain : chart.colors = none) {layout : Chart.Layout}
    (laidOut : chart.layout? dataset = some layout) :
    ∃ series, layout.series = [series] ∧
      series.HasBars ((dataset.numbered metric).map fun entry =>
        ⟨Binary64.ofNat entry.1 + Slot.barShift 0 1, entry.2, Palette.color entry.1⟩) := by
  obtain ⟨series, labels, drawn, _, rfl⟩ := (chart.layout?_eq_some_iff dataset layout).mp laidOut
  rw [single, List.zipIdx_singleton] at drawn
  obtain ⟨only, rfl⟩ := List.length_eq_one_iff.mp drawn.length_eq.symm
  obtain ⟨made, _⟩ := List.forall₂_cons.mp drawn
  have one : chart.metrics.length = 1 := by rw [single, List.length_singleton]
  have shift : chart.shift 0 = Slot.barShift 0 1 := by rw [Chart.shift, bar, one]
  refine ⟨only, rfl, ?_⟩
  rw [← shift]
  exact series?_hasBars bar one plain made

end Chart

end LoadReport
