import Mathlib.Data.List.Induction
import Mathlib.Data.Nat.ModEq
import LoadReport.Config.Preset
import LoadReport.Proofs.Layout.Coloring
import LoadReport.Proofs.Run.Overwriting
import LoadReport.Proofs.Run.Rendering

/-!
# Colours of scenarios

A bar of a single metric is coloured by the index of its scenario among those that are found, which is
also where it stands. So a scenario has the colour of its place in the configuration only if as many
scenarios in front of it are missing as the palette has colours, or none, and reports on different
files may show one scenario in different colours.
-/

namespace LoadReport

open Outcomes

namespace Section

variable (tree : FileTree) (part : Section)

/-- How many of the scenarios in front of a position are found. -/
def rank (position : Nat) : Nat :=
  (part.scenarios.take position).countP (Scenario.isFound tree)

/-- How many of the scenarios in front of a position are not found. -/
def unfound (position : Nat) : Nat :=
  (part.scenarios.take position).countP fun scenario => !scenario.isFound tree

/-- The bar of the scenario at a position, in a chart of a single metric with the colours of the
palette. -/
def bar? (metric : Metric) (position : Nat) : Option Bar :=
  let rank := part.rank tree position
  (part.scenarios[position]?.bind (Scenario.value? tree metric)).map fun height =>
    ⟨Binary64.ofNat rank + Slot.barShift 0 1, height, Palette.color rank⟩

/-- The bars of all scenarios, in order. -/
def bars (metric : Metric) : List Bar :=
  (List.range part.scenarios.length).filterMap (part.bar? tree metric)

theorem rank_add_unfound {position : Nat} (inside : position ≤ part.scenarios.length) :
    part.rank tree position + part.unfound tree position = position := by
  have split := List.length_eq_countP_add_countP (Scenario.isFound tree)
    (l := part.scenarios.take position)
  rw [List.length_take_of_le inside] at split
  simpa [rank, unfound] using split.symm

/-- The index of what is found for a scenario is the rank of the scenario. -/
theorem numbered_of_found (metric : Metric) (scenarios : List Scenario) (figures : List Figure) :
    Dataset.numbered ⟨found tree ⟨scenarios, figures⟩⟩ metric =
      (List.range scenarios.length).filterMap fun position =>
        (scenarios[position]?.bind (Scenario.value? tree metric)).map fun value =>
          (rank tree ⟨scenarios, figures⟩ position, value) := by
  induction scenarios using List.reverseRecOn with
  | nil => rfl
  | append_singleton scenarios scenario inductionHypothesis =>
    rw [List.length_append, List.length_singleton, List.range_succ, List.filterMap_append]
    have last : found tree ⟨scenarios ++ [scenario], figures⟩ =
        found tree ⟨scenarios, figures⟩ ++ (scenario.found? tree).toList := by
      cases finding : scenario.found? tree with
      | none => simp [found, finding]
      | some measurement => simp [found, finding]
    rw [Dataset.numbered] at inductionHypothesis ⊢
    rw [last, List.zipIdx_append, List.filterMap_append]
    congr 1
    -- What stands in front has the same rank as without the last scenario.
    · rw [inductionHypothesis]
      apply List.filterMap_congr
      intro position member
      have inside := List.mem_range.mp member
      simp only [rank, List.getElem?_append_left inside, List.take_append_of_le_length inside.le]
    · have count : (found tree ⟨scenarios, figures⟩).length =
          rank tree ⟨scenarios ++ [scenario], figures⟩ scenarios.length := by
        rw [rank, List.take_left]
        exact List.length_filterMap_eq_countP
      have stands : (scenarios ++ [scenario])[scenarios.length]? = some scenario := by simp
      simp only [List.filterMap_cons, List.filterMap_nil, stands, Option.bind_some, Scenario.value?]
      cases scenario.found? tree with
      | none => rfl
      | some measurement =>
        simp only [Option.toList_some, List.zipIdx_singleton, Nat.zero_add, Option.bind_some,
          List.filterMap_cons, List.filterMap_nil, count]

theorem bars_eq (metric : Metric) :
    part.bars tree metric = (Dataset.numbered ⟨part.found tree⟩ metric).map fun entry =>
      ⟨Binary64.ofNat entry.1 + Slot.barShift 0 1, entry.2, Palette.color entry.1⟩ := by
  rw [numbered_of_found tree metric part.scenarios part.figures, List.map_filterMap]
  apply List.filterMap_congr
  intro position _
  rw [bar?, Option.map_map]
  rfl

/-- What is missing in front of a scenario is what takes its colour away from its place. -/
theorem bar?_color {metric : Metric} {position : Nat} {bar : Bar}
    (drawn : part.bar? tree metric position = some bar) :
    bar.color = Palette.color (part.rank tree position) ∧
      part.rank tree position + part.unfound tree position = position := by
  simp only [bar?, Option.map_eq_some_iff, Option.bind_eq_some_iff] at drawn
  obtain ⟨value, ⟨scenario, stands, _⟩, rfl⟩ := drawn
  obtain ⟨inside, _⟩ := List.getElem?_eq_some_iff.mp stands
  exact ⟨rfl, part.rank_add_unfound tree inside.le⟩

end Section

namespace Report

/-- In a bar chart of a single metric that is coloured by the palette, a scenario is drawn where its
rank among what is found puts it, in the colour of that rank. So it has the colour of its place in the
configuration exactly if whole rounds of the palette are missing in front of it, and in two reports the
same colour exactly if the numbers of those that are missing in front differ by whole rounds. -/
theorem bars_take_colors_of_ranks {config : Config} {part : Section} {figure : Figure} {place : Nat}
    {chart : Chart} {metric : Metric} (refused : List Path) (limit : Option Nat)
    (member : part ∈ config.sections) (shown : figure ∈ part.figures)
    (stands : figure.charts[place]? = some chart) (kind : chart.kind = .bar)
    (single : chart.metrics = [metric]) (plain : chart.colors = none) :
    (∀ tree trace, run (Drawing.recording refused) limit [] tree config = (.completed, trace) →
      part.isLive tree = true →
      ∃ layout ∈ trace.backend, ∃ drawn series, layout.output = figure.output ∧
        layout.charts[place]? = some drawn ∧ drawn.series = [series] ∧
        series.HasBars (part.bars tree metric)) ∧
      (∀ tree position bar, part.bar? tree metric position = some bar →
        (bar.color = Palette.color position ↔
          part.unfound tree position % Palette.colors.length = 0)) ∧
      ∀ first second position bar other, part.bar? first metric position = some bar →
        part.bar? second metric position = some other →
        (bar.color = other.color ↔
          part.unfound first position ≡ part.unfound second position [MOD Palette.colors.length]) := by
  have colorCount : Palette.colors.length = 6 := rfl
  refine ⟨?_, ?_, ?_⟩
  · intro tree trace completed live
    obtain ⟨layout, recorded, laidOut⟩ := layout_of_completed completed member live shown
    obtain ⟨charts, drawn, rfl⟩ := (Figure.layout?_eq_some_iff _ _ _).mp laidOut
    obtain ⟨chartLayout, among, made⟩ := exists_getElem?_of_forall₂ drawn stands
    obtain ⟨series, only, bars⟩ := Chart.layout?_hasBars kind single plain made
    rw [← part.bars_eq] at bars
    exact ⟨_, recorded, chartLayout, series, rfl, among, only, bars⟩
  · intro tree position bar drawn
    obtain ⟨color, split⟩ := part.bar?_color tree drawn
    rw [color, Palette.color_eq_color_iff, colorCount]
    omega
  · intro first second position bar other drawn drawnOther
    obtain ⟨color, split⟩ := part.bar?_color first drawn
    obtain ⟨otherColor, otherSplit⟩ := part.bar?_color second drawnOther
    rw [color, otherColor, Palette.color_eq_color_iff, Nat.ModEq, colorCount]
    omega

/-- A folder with results files that say nothing. -/
def folderOf (names : List String) : FileTree :=
  .holding (names.map fun name => (name, .file "\x7b\x7d".toUTF8.data.toList))

/-- Bars of the throughput for both results files. -/
def workloadBars : Section where
  scenarios := Preset.resultsFiles
  figures := (barTo [⟨"bars.png"⟩]).sections.flatMap Section.figures

theorem hot_spot_takes_color_of_its_rank :
    let report (names : List String) :=
      run (Drawing.recording []) none [] (folderOf names) ⟨[workloadBars]⟩
    let bars (names : List String) := workloadBars.bars (folderOf names) .throughput
    let shown (names : List String) :=
      ∃ layout ∈ (report names).2.backend, ∃ drawn series, layout.output = ⟨"bars.png"⟩ ∧
        layout.charts[0]? = some drawn ∧ drawn.series = [series] ∧ series.HasBars (bars names)
    let both := ["results_uniform.json", "results_hotspot.json"]
    let single := ["results_hotspot.json"]
    (report both).1 = .completed ∧ (report single).1 = .completed ∧ shown both ∧ shown single ∧
      (bars both).map Bar.color = ["#40826D", "#D9534F"] ∧
      (bars single).map Bar.color = ["#40826D"] ∧
      ∃ bar other, workloadBars.bar? (folderOf both) .throughput 1 = some bar ∧
        workloadBars.bar? (folderOf single) .throughput 1 = some other ∧
        bar.color = Palette.color 1 ∧ other.color ≠ Palette.color 1 ∧ bar.color ≠ other.color := by
  intro report bars shown both single
  let figure := workloadBars.figures[0]
  let chart := figure.charts[0]
  have member : workloadBars ∈ (Config.mk [workloadBars]).sections := List.mem_singleton_self _
  have shownFigure : figure ∈ workloadBars.figures := List.getElem_mem _
  have stands : figure.charts[0]? = some chart := rfl
  obtain ⟨draws, own, differ⟩ := bars_take_colors_of_ranks [] none member shownFigure stands rfl
    (rfl : chart.metrics = [.throughput]) rfl
  have completed : (report both).1 = .completed := by decide +kernel
  have completedSingle : (report single).1 = .completed := by decide +kernel
  have drawn (names : List String) (completed : (report names).1 = .completed)
      (live : workloadBars.isLive (folderOf names) = true) : shown names := by
    obtain ⟨trace, ran⟩ : ∃ trace, report names = (.completed, trace) :=
      ⟨(report names).2, by rw [← completed]⟩
    have result := draws (folderOf names) trace ran live
    simp only [shown, ran]
    exact result
  obtain ⟨bar, stood⟩ : ∃ bar, workloadBars.bar? (folderOf both) .throughput 1 = some bar :=
    Option.isSome_iff_exists.mp (by decide +kernel)
  obtain ⟨other, stoodSingle⟩ :
      ∃ other, workloadBars.bar? (folderOf single) .throughput 1 = some other :=
    Option.isSome_iff_exists.mp (by decide +kernel)
  refine ⟨completed, completedSingle, drawn both completed (by decide +kernel),
    drawn single completedSingle (by decide +kernel), by decide +kernel, by decide +kernel,
    bar, other, stood, stoodSingle, ?_, ?_, ?_⟩
  · rw [own _ _ _ stood]
    decide +kernel
  · rw [ne_eq, own _ _ _ stoodSingle]
    decide +kernel
  · rw [ne_eq, differ _ _ _ _ _ stood stoodSingle]
    decide +kernel

/-- Without the file of the uniform workload, the benchmark's own report shows the hot-spot workload in
the colour of the uniform one. -/
theorem hot_spot_changes_color :
    ∃ config, Preset.benchmarkResults.config = .ok config ∧ config.check = .ok () ∧
      let report (names : List String) := run (Drawing.recording []) none [] (folderOf names) config
      let shown (names : List String) := (report names).2.backend.map fun layout =>
        layout.charts.map fun chart => (chart.tickLabels, chart.series.map Series.colors)
      let both := ["results_uniform.json", "results_hotspot.json"]
      let single := ["results_hotspot.json"]
      (report both).1 = .completed ∧ (report single).1 = .completed ∧
        shown both = [List.replicate 2 (["Uniform", "Hot-Spot"], [["#40826D", "#D9534F"]])] ∧
        shown single = [List.replicate 2 (["Hot-Spot"], [["#40826D"]])] := by
  refine ⟨_, rfl, ?_, ?_, ?_, ?_, ?_⟩
  · decide +kernel
  · decide +kernel
  · decide +kernel
  · decide +kernel
  · decide +kernel

end Report

end LoadReport
