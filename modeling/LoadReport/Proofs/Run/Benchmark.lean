import LoadReport.Main
import LoadReport.Proofs.Drawing.Elements
import LoadReport.Proofs.Drawing.Session
import LoadReport.Proofs.Layout.Coloring
import LoadReport.Proofs.Layout.Finiteness
import LoadReport.Proofs.Loading.Workloads
import LoadReport.Proofs.Run.Calling
import LoadReport.Proofs.Run.Crashes
import LoadReport.Proofs.Run.Refusals

/-!
# The report of the results files

Nothing in the working directory keeps the report of the benchmark from an orderly end. A file that is
of no use stops it before anything is written or drawn; otherwise it warns of the files that are missing
and draws the results in the others.

* `Chart.layout?_of_measured` — the layout of a chart of one metric that all measurements have.
* `ShowsResults` — what the calls of the drawing show.
* `Main.perform_of_broken`, `Main.perform_of_usable` — the two ways in which the report ends.
-/

namespace LoadReport

/-! ## Charts of what all measurements have -/

/-- Where the bars of a single metric stand. -/
def barPositions (count : Nat) : List Binary64 :=
  (List.range count).map fun index => Binary64.ofNat index + Slot.barShift 0 1

section

variable {dataset : Dataset} {metric : Metric} {values : List Binary64}
  (measured : dataset.measurements.map (fun measurement => measurement.values.get metric) =
    values.map some)
include measured

theorem Dataset.numbered_of_measured :
    dataset.numbered metric = values.zipIdx.map fun entry => (entry.2, entry.1) := by
  have views : dataset.numbered metric =
      ((dataset.measurements.map fun measurement => measurement.values.get metric).zipIdx).filterMap
        fun entry => entry.1.map fun value => (entry.2, value) := by
    rw [List.zipIdx_map, List.filterMap_map]
    rfl
  rw [views, measured, List.zipIdx_map, List.filterMap_map, ← List.filterMap_eq_map]
  rfl

/-- A chart of one metric that all measurements have shows and labels the value of each. -/
theorem Chart.layout?_of_measured {chart : Chart} (bar : chart.kind = .bar)
    (single : chart.metrics = [metric]) (plain : chart.colors = none)
    (writable : ¬ chart.labelFormat.Overlong) :
    ∃ layout label width, chart.layout? dataset = some layout ∧
      layout.series = [.bars label (barPositions values.length) values width
        (Palette.first values.length)] ∧
      layout.valueLabels.length = values.length := by
  have drawable : chart.layout? dataset ≠ none := by
    simp [Chart.layout?_eq_none_iff, plain, writable]
  obtain ⟨layout, laidOut⟩ := Option.ne_none_iff_exists'.mp drawable
  have numbered := Dataset.numbered_of_measured measured
  obtain ⟨series, only, label, width, rfl⟩ := Chart.layout?_hasBars bar single plain laidOut
  have labels := congrArg List.length (Chart.valueLabels_of_layout? laidOut)
  -- Positions and colours go by the index, heights are the values.
  have indices : values.zipIdx.map Prod.snd = List.range values.length := by
    rw [List.zipIdx_map_snd, List.range_eq_range']
  refine ⟨layout, label, width, laidOut, ?_, ?_⟩
  · have heights : values.zipIdx.map Prod.fst = values := List.zipIdx_map_fst 0 values
    simp only [only, numbered, barPositions, Palette.first, ← indices, List.map_map]
    exact congrArg (fun heights => [Series.bars label _ heights width _]) heights
  · rw [List.length_map, single, List.zipIdx_singleton, List.flatMap_singleton, List.length_map,
      Chart.placed, List.length_map, dataset.points_eq, numbered] at labels
    simpa using labels

end

/-! ## The report -/

/-- Bars of the throughput. -/
def throughputChart : Chart where
  title := "System Throughput"
  kind := .bar
  metrics := [.throughput]
  xLabel := none
  yLabel := "Transactions Per Second (TPS)"
  labelFormat := ⟨"%.0f", [.fixed 0]⟩
  yMax := none
  labelOffset := 5
  colors := none

/-- Bars of the abort rate. -/
def abortChart : Chart where
  title := "Transaction Abort Rate"
  kind := .bar
  metrics := [.abortRate]
  xLabel := none
  yLabel := "Abort Rate (%)"
  labelFormat := ⟨"%.1f%%", [.fixed 1, .literal '%']⟩
  yMax := some 100
  labelOffset := 100 * 0.01
  colors := none

/-- Throughput and abort rate side by side. -/
def resultsFigure : Figure where
  output := ⟨"benchmark_results.png"⟩
  resolution := some Preset.paperResolution
  size := (12, 5)
  charts := [throughputChart, abortChart]

/-- The only section of the report. -/
def resultsSection : Section :=
  ⟨Preset.resultsFiles, [resultsFigure]⟩

theorem benchmarkResults_config : Preset.benchmarkResults.config = .ok ⟨[resultsSection]⟩ := by
  decide +kernel

theorem resultsSection_accepted : Config.check ⟨[resultsSection]⟩ = .ok () := by
  decide +kernel

/-- The calls of a drawing in which results stand side by side: their throughput on the left, their
abort rate on the right, each with a bar and a label for each of the results, in order. -/
structure ShowsResults (calls : List Drawing.Call) (results : List Results) : Prop where
  figure : Drawing.callsOf "figure" calls = [.openFigure (12, 5)]
  subplots : Drawing.callsOf "subplot" calls = [.subplot 2 1, .subplot 2 2]
  bars : ∃ leftLabel leftWidth rightLabel rightWidth, Drawing.callsOf "bar" calls =
    [.bars 0 leftLabel (barPositions results.length) (results.map Results.throughput) leftWidth
        (Palette.first results.length),
      .bars 1 rightLabel (barPositions results.length) (results.map Results.abortRate) rightWidth
        (Palette.first results.length)]
  labels : ∃ left right : List ValueLabel,
    Drawing.callsOf "text" calls =
        left.map (Drawing.Call.writeLabel 0) ++ right.map (Drawing.Call.writeLabel 1) ∧
      left.length = results.length ∧ right.length = results.length

/-- The plan for what is found shows it. -/
theorem showsResults_of_measured {dataset : Dataset} {results : List Results}
    (throughput : dataset.measurements.map (fun measurement => measurement.values.get .throughput) =
      (results.map Results.throughput).map some)
    (abortRate : dataset.measurements.map (fun measurement => measurement.values.get .abortRate) =
      (results.map Results.abortRate).map some) :
    ∃ layout, resultsFigure.layout? dataset = some layout ∧
      ShowsResults (Drawing.Progress.fresh.plan layout) results := by
  have writable : ¬ throughputChart.labelFormat.Overlong ∧ ¬ abortChart.labelFormat.Overlong := by
    simp [LabelFormat.Overlong, throughputChart, abortChart, LabelFormat.writablePlaces]
  obtain ⟨left, leftLabel, leftWidth, leftLaidOut, leftSeries, leftLabels⟩ :=
    Chart.layout?_of_measured throughput rfl rfl rfl writable.1
  obtain ⟨right, rightLabel, rightWidth, rightLaidOut, rightSeries, rightLabels⟩ :=
    Chart.layout?_of_measured abortRate rfl rfl rfl writable.2
  simp only [List.length_map] at leftSeries leftLabels rightSeries rightLabels
  have laidOut : resultsFigure.layout? dataset = some _ :=
    (Figure.layout?_eq_some_iff _ _ _).mpr
      ⟨[left, right], .cons leftLaidOut (.cons rightLaidOut .nil), rfl⟩
  refine ⟨_, laidOut, ?_, ?_, ?_, ?_⟩
  · exact Drawing.figures_of_plan _ _
  · exact Drawing.subplots_of_plan _ _
  · refine ⟨leftLabel, leftWidth, rightLabel, rightWidth, ?_⟩
    rw [Drawing.bars_of_plan]
    simp [leftSeries, rightSeries, Drawing.seriesCall, Drawing.Call.function, Drawing.Progress.fresh]
  · refine ⟨left.valueLabels, right.valueLabels, ?_, leftLabels, rightLabels⟩
    rw [Drawing.texts_of_plan]
    simp [Drawing.Progress.fresh]

/-! ## Runs -/

namespace Main

open Report

/-- A report with a script that does not end itself draws all layouts in the script. -/
theorem perform_of_sound {preset : Preset} {config : Config} (built : preset.config = .ok config)
    {tree : FileTree} (sound : ∀ step ∈ script tree config, step.ends = false) :
    let trace := (Trace.start []).followedBy (script tree config)
    perform Drawing.Fault.none preset tree =
      (.completed,
        trace.withBackend (Drawing.Session.fresh.drawAll Drawing.Fault.none trace.backend).2) := by
  intro trace
  -- The run that only keeps layouts tells which ones are drawn by calls.
  have completed := Trace.performAll_of_sound (Trace.start []) sound
  have kept : ((Trace.start []).performAll (Drawing.recording []) none (script tree config)).2.backend =
      (Trace.start []).backend ++ trace.backend := by
    rw [completed]
    rfl
  have drawn := Drawing.Session.calling_drawAll? Drawing.Fault.none Drawing.Session.fresh
    (Drawing.Session.drawAll_without_fault Drawing.Session.fresh trace.backend)
  have same := Trace.performAll_of_drawAll? (Drawing.calling Drawing.Fault.none) none (Trace.start [])
    kept drawn
  rw [completed] at same
  simp only [perform, built]
  exact same

/-- What a report comes to whose script prints lines first and then does the rest. -/
theorem perform_of_script {config : Config} {preset : Preset} (built : preset.config = .ok config)
    {tree : FileTree} {events : List Event} {lines : List Line} {rest : List Step}
    (scripted : script tree config = events.map .log ++ (lines.map .print ++ rest))
    (sound : ∀ step ∈ rest, step.ends = false) :
    ∃ trace : Trace Drawing.Session,
      perform Drawing.Fault.none preset tree = (.completed, trace) ∧
        trace.output = lines.flatMap Line.bytes ++ rest.flatMap Step.written ∧
        trace.backend =
          (Drawing.Session.fresh.drawAll Drawing.Fault.none (rest.flatMap Step.drawn)).2 := by
  have soundAll : ∀ step ∈ script tree config, step.ends = false := by
    rw [scripted]
    simp only [List.forall_mem_append, List.forall_mem_map]
    exact ⟨fun _ _ => rfl, fun _ _ => rfl, sound⟩
  refine ⟨_, perform_of_sound built soundAll, ?_, ?_⟩
  · simp only [scripted, Trace.withBackend, Trace.followedBy, List.flatMap_append, List.flatMap_map]
    simp [Trace.start, Step.written]
  · -- Only the rest of the script has anything to draw.
    have undrawn : (events.map Step.log).flatMap Step.drawn = [] ∧
        (lines.map Step.print).flatMap Step.drawn = [] := by
      simp [List.flatMap_eq_nil_iff, Step.drawn]
    simp only [scripted, Trace.withBackend, Trace.followedBy, List.flatMap_append, undrawn.1,
      undrawn.2, List.nil_append]
    rfl

section

variable (tree : FileTree)

theorem found_resultsSection :
    resultsSection.found tree =
      Workload.all.filterMap fun workload =>
        (workload.results? tree).map fun results => results.toMeasurement workload.label := by
  rw [Section.found, resultsSection, Workload.resultsFiles_eq, List.filterMap_map]
  apply List.filterMap_congr
  intro workload member
  exact Workload.found?_scenario tree (Workload.isEntryName_of_mem_all member)

theorem missing_resultsSection :
    resultsSection.missing tree =
      (Workload.all.filter fun workload => !workload.isThere tree).map fun workload =>
        ⟨workload.file⟩ := by
  rw [Section.missing, resultsSection, Workload.resultsFiles_eq, List.filterMap_map,
    ← List.filterMap_eq_map, ← List.filterMap_eq_filter, List.filterMap_filterMap]
  apply List.filterMap_congr
  intro workload member
  have missing := Workload.missing?_scenario tree (Workload.isEntryName_of_mem_all member)
  rw [Function.comp_apply, missing]
  cases there : workload.isThere tree <;> simp [Option.guard, there]

theorem loads_resultsSection_iff :
    (∀ scenario ∈ resultsSection.scenarios, scenario.Loads tree) ↔
      ∀ workload ∈ Workload.all.filter (Workload.isThere tree),
        workload.results? tree ≠ none := by
  rw [resultsSection, Workload.resultsFiles_eq, List.forall_mem_map]
  simp only [List.mem_filter, and_imp]
  exact forall₂_congr fun workload member =>
    Workload.loads_iff tree (Workload.isEntryName_of_mem_all member)

/-- The results that are shown belong to the files that are there. -/
theorem results_of_present {workloads : List Workload}
    (usable : ∀ workload ∈ workloads.filter (Workload.isThere tree),
      workload.results? tree ≠ none) :
    (workloads.filter (Workload.isThere tree)).map (Workload.results? tree) =
      (workloads.filterMap (Workload.results? tree)).map some := by
  induction workloads with
  | nil => rfl
  | cons workload rest inductionHypothesis =>
    cases there : workload.isThere tree with
    | false =>
      have nothing := Workload.results?_of_absent tree there
      have skipped : ¬ workload.isThere tree = true := by simp [there]
      rw [List.filter_cons_of_neg skipped] at usable ⊢
      rw [List.filterMap_cons_none nothing]
      exact inductionHypothesis usable
    | true =>
      rw [List.filter_cons_of_pos there] at usable ⊢
      rw [List.forall_mem_cons] at usable
      obtain ⟨first, others⟩ := usable
      obtain ⟨results, shown⟩ := Option.ne_none_iff_exists'.mp first
      rw [List.filterMap_cons_some shown, List.map_cons, List.map_cons, shown,
        inductionHypothesis others]

/-- What there is to draw once everything has been loaded. -/
theorem drawn_resultsSection {results : List Results}
    (same : results = Workload.all.filterMap (Workload.results? tree)) :
    ∃ layout event, figureScript ⟨resultsSection.found tree⟩ resultsFigure =
        [.draw layout, .log event, .print (.generated resultsFigure.output)] ∧
      ShowsResults (Drawing.Progress.fresh.plan layout) results := by
  -- A file has a value for every metric, so that nothing is left out of a chart.
  have measured (metric : Metric) (value : Results → Binary64)
      (reads : ∀ (results : Results) (label : String),
        (results.toMeasurement label).values.get metric = some (value results)) :
      (resultsSection.found tree).map
          (fun measurement => measurement.values.get metric) = (results.map value).map some := by
    rw [found_resultsSection, same, List.map_filterMap, List.map_map, List.map_filterMap]
    simp only [Option.map_map, Function.comp_def, reads]
  obtain ⟨layout, laidOut, depicted⟩ := showsResults_of_measured
    (measured .throughput Results.throughput fun _ _ => rfl)
    (measured .abortRate Results.abortRate fun _ _ => rfl)
  exact ⟨layout, _, figureScript_eq laidOut, depicted⟩

/-- A file that is of no use ends the report before anything is written or drawn. -/
theorem perform_of_broken (fault : Drawing.Fault) {workload : Workload}
    (member : workload ∈ Workload.all.filter (Workload.isThere tree))
    (broken : workload.results? tree = none) :
    ∃ failure events, perform fault .benchmarkResults tree =
      (.failed (Failure.within .loadScenarios failure),
        { Trace.start Drawing.Session.fresh with events := events }) := by
  obtain load | ⟨loaded, failing, others, failure, scenarios, load, failed⟩ :=
    Scenario.loads_or_first_failure tree resultsSection.scenarios
  · exact absurd broken ((loads_resultsSection_iff tree).mp load workload member)
  · have stopped : (Trace.start Drawing.Session.fresh).performAll (Drawing.calling fault) none
        (script tree ⟨[resultsSection]⟩) = _ :=
      performAll_of_first_failure resultsSection_accepted scenarios load failed
    refine ⟨failure, (loaded ++ [failing]).flatMap (Scenario.logged tree), ?_⟩
    simp only [perform, benchmarkResults_config]
    exact stopped

section

variable (usable : ∀ workload ∈ Workload.all.filter (Workload.isThere tree),
  workload.results? tree ≠ none)
include usable

/-- The script of the report on files that can all be used. -/
theorem script_of_usable :
    script tree ⟨[resultsSection]⟩ =
      (resultsSection.scenarios.flatMap (Scenario.logged tree)).map .log ++
        loadedSteps tree resultsSection := by
  have load := (loads_resultsSection_iff tree).mpr usable
  have loaded := sectionScript_of_loads load (by decide)
  rw [script_of_ok resultsSection_accepted, List.flatMap_singleton]
  exact loaded

/-- There is something to draw if one of the files is there. -/
theorem isLive_resultsSection_iff :
    resultsSection.isLive tree = true ↔
      Workload.all.filter (Workload.isThere tree) ≠ [] := by
  rw [Section.isLive, resultsSection, Workload.resultsFiles_eq, List.any_map, List.any_eq_true]
  simp only [ne_eq, List.filter_eq_nil_iff, not_forall, not_not, exists_prop]
  refine exists_congr fun workload => and_congr_right fun member => ?_
  have found := Workload.found?_scenario tree (Workload.isEntryName_of_mem_all member)
  rw [Function.comp_apply, Scenario.isFound, found, Option.isSome_map]
  cases there : workload.isThere tree with
  | false => simp [Workload.results?_of_absent tree there]
  | true =>
    have shown := usable workload (List.mem_filter.mpr ⟨member, there⟩)
    simpa [Option.isSome_iff_ne_none] using shown

theorem perform_of_usable :
    let present := Workload.all.filter (Workload.isThere tree)
    let absent := Workload.all.filter fun workload => !workload.isThere tree
    let warnings := absent.map fun workload => Line.skipped ⟨workload.file⟩
    ∃ trace : Trace Drawing.Session,
      perform Drawing.Fault.none .benchmarkResults tree = (.completed, trace) ∧
        (present = [] ∧ trace.output = (warnings ++ [Line.noData]).flatMap Line.bytes ∧
            trace.backend.made = [] ∨
          present ≠ [] ∧
            trace.output =
              (warnings ++ [Line.generated ⟨"benchmark_results.png"⟩]).flatMap Line.bytes ∧
            ∃ results, present.map (Workload.results? tree) = results.map some ∧
              ShowsResults trace.backend.made results) := by
  intro present absent warnings
  have scripted := script_of_usable tree usable
  have live := isLive_resultsSection_iff tree usable
  have skipped : (resultsSection.missing tree).map
      (fun path => Step.print (.skipped path)) = warnings.map .print := by
    rw [missing_resultsSection, List.map_map, List.map_map]
    rfl
  rw [loadedSteps, skipped] at scripted
  -- Whether there is anything to draw is decided by the files that are there.
  by_cases nothing : present = []
  · have dead : resultsSection.isLive tree = false := by
      rw [← Bool.not_eq_true, live, not_not]
      exact nothing
    rw [dead] at scripted
    obtain ⟨trace, performed, output, backend⟩ :=
      perform_of_script benchmarkResults_config scripted (by simp [Step.ends])
    refine ⟨trace, performed, .inl ⟨nothing, ?_, ?_⟩⟩
    · rw [output, List.flatMap_append]
      rfl
    · rw [backend]
      rfl
  · obtain ⟨layout, event, drawing, depicted⟩ := drawn_resultsSection tree rfl
    have figures : resultsSection.figures = [resultsFigure] := rfl
    rw [if_pos (live.mpr nothing), figures, List.flatMap_singleton, drawing] at scripted
    obtain ⟨trace, performed, output, backend⟩ :=
      perform_of_script benchmarkResults_config scripted (by simp [Step.ends])
    refine ⟨trace, performed, .inr ⟨nothing, ?_, _, results_of_present tree usable, ?_⟩⟩
    · rw [output, List.flatMap_append]
      rfl
    · have drawn : trace.backend = (Drawing.Session.fresh.draw Drawing.Fault.none layout).2 := backend
      rw [drawn, Drawing.Session.draw_without_fault]
      exact depicted

end

end

/-- The report of the results files says what it has found, whatever stands in the working directory.
It is always in order as a configuration. A file that is there but of no use ends it while the scenarios
are loaded, with nothing written and nothing drawn. Otherwise it names the files that are missing and
shows the results in the others, in the order of the workloads. -/
theorem results_are_reported_from_every_directory (tree : FileTree) :
    let ran := perform Drawing.Fault.none .benchmarkResults tree
    let present := Workload.all.filter (Workload.isThere tree)
    let absent := Workload.all.filter fun workload => !workload.isThere tree
    let calls := ran.2.backend.made
    (∃ config, Preset.benchmarkResults.config = .ok config ∧ config.check = .ok ()) ∧
      ran.1 ≠ .crashed ∧
      ((∃ workload ∈ present, workload.results? tree = none) →
        (∃ failure, ran.1 = .failed (Failure.within .loadScenarios failure)) ∧
          ran.2.output = [] ∧ calls = []) ∧
      ((∀ workload ∈ present, workload.results? tree ≠ none) →
        ran.1 = .completed ∧
          ran.2.output =
            (absent.map (fun workload =>
                "Warning: " ++ workload.file ++ " not found. Skipping.\n") ++
              [if present = [] then "No data found.\n"
                else "Generated benchmark_results.png\n"]).flatMap
                  (fun line => line.toUTF8.data.toList) ∧
          (present = [] → calls = []) ∧
          (present ≠ [] → ∃ results, present.map (Workload.results? tree) = results.map some ∧
            ShowsResults calls results)) := by
  intro ran present absent calls
  refine ⟨⟨_, benchmarkResults_config, resultsSection_accepted⟩, ?_⟩
  -- Either case rules the other one out, so that the two say everything.
  by_cases broken : ∃ workload ∈ present, workload.results? tree = none
  · obtain ⟨workload, member, useless⟩ := broken
    obtain ⟨failure, events, failed⟩ := perform_of_broken tree Drawing.Fault.none member useless
    have ended : ran = _ := failed
    simp only [calls, ended]
    exact ⟨by simp, fun _ => ⟨⟨failure, rfl⟩, rfl, rfl⟩,
      fun usable => absurd useless (usable workload member)⟩
  · have usable : ∀ workload ∈ present, workload.results? tree ≠ none :=
      fun workload member useless => broken ⟨workload, member, useless⟩
    obtain ⟨trace, completed, shown⟩ := perform_of_usable tree usable
    have ended : ran = (.completed, trace) := completed
    simp only [calls, ended]
    refine ⟨by simp, fun useless => absurd useless broken, fun _ => ⟨trivial, ?_⟩⟩
    obtain ⟨nothing, output, made⟩ | ⟨something, output, depicted⟩ := shown
    · refine ⟨?_, fun _ => made, fun something => absurd nothing something⟩
      rw [output, if_pos nothing, List.flatMap_append, List.flatMap_append, List.flatMap_map,
        List.flatMap_map]
      rfl
    · refine ⟨?_, fun nothing => absurd nothing something, fun _ => depicted⟩
      rw [output, if_neg something, List.flatMap_append, List.flatMap_append, List.flatMap_map,
        List.flatMap_map]
      rfl

def uniformEntries : List (String × FileTree.Node) :=
  [("results_uniform.json",
    .file "\x7b\"throughput_tps\":326.5,\"abort_rate_pct\":1.79\x7d".toUTF8.data.toList)]

/-- Only the results of the first workload, in range. -/
def uniformFolder : FileTree :=
  .holding uniformEntries

/-- A folder in which the second file is a directory. -/
def brokenFolder : FileTree :=
  .holding (uniformEntries ++ [("results_hotspot.json", .directory [])])

/-- The results in the first of the files. -/
def uniformResults : Results :=
  { Results.empty with throughput := 326.5, abortRate := 1.79 }

theorem uniform_results_are_reported_alone :
    let ran := perform Drawing.Fault.none .benchmarkResults uniformFolder
    let broken := perform Drawing.Fault.none .benchmarkResults brokenFolder
    ran.1 = .completed ∧
      ran.2.output = ("Warning: results_hotspot.json not found. Skipping.\n" ++
        "Generated benchmark_results.png\n").toUTF8.data.toList ∧
      ShowsResults ran.2.backend.made [uniformResults] ∧
      (∃ failure, broken.1 = .failed (Failure.within .loadScenarios failure)) ∧
      broken.2.output = [] ∧ broken.2.backend.made = [] := by
  have present : (Workload.all.filter (Workload.isThere uniformFolder)).map
      (Workload.results? uniformFolder) = [uniformResults].map some := by decide +kernel
  obtain ⟨_, _, _, usable⟩ := results_are_reported_from_every_directory uniformFolder
  obtain ⟨completed, output, _, shown⟩ := usable (by decide +kernel)
  obtain ⟨results, same, depicted⟩ := shown (by decide +kernel)
  rw [present] at same
  obtain rfl := (List.map_inj_right fun _ _ => Option.some.inj).mp same
  obtain ⟨_, _, broken, _⟩ := results_are_reported_from_every_directory brokenFolder
  obtain ⟨failed, unwritten, undrawn⟩ :=
    broken ⟨⟨"Hot-Spot", "results_hotspot.json"⟩, by decide +kernel, by decide +kernel⟩
  refine ⟨completed, ?_, depicted, failed, unwritten, undrawn⟩
  rw [output]
  decide +kernel

end Main

end LoadReport
