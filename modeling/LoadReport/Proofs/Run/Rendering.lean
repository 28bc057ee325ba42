import LoadReport.Proofs.Layout.Depiction
import LoadReport.Proofs.Run.Sections

/-!
# Completed runs render what was loaded

Nothing is lost, added or shifted between the files and what a completed run leaves behind: the live
sections are drawn figure by figure from exactly what is found for their scenarios, and the console
names every missing source and every image.
-/

namespace LoadReport

/-- The lines for a section: one for each missing source, and then one for each image or, where nothing
is found, that there is none. -/
def Section.lines (tree : FileTree) (part : Section) : List Report.Line :=
  (part.missing tree).map .skipped ++
    if part.isLive tree then part.figures.map fun figure => .generated figure.output else [.noData]

/-- What the console says about a section. -/
def Section.console (tree : FileTree) (part : Section) : List String :=
  (part.lines tree).map Report.Line.text

namespace Report

/-! ## The figures of a section -/

section Figures

variable {dataset : Dataset} {figures : List Figure}

theorem layout_of_sound (sound : ∀ step ∈ figures.flatMap (figureScript dataset), step.ends = false)
    {figure : Figure} (member : figure ∈ figures) : ∃ layout, figure.layout? dataset = some layout := by
  cases laidOut : figure.layout? dataset with
  | some layout => exact ⟨layout, rfl⟩
  | none =>
    have crash : Step.crash ∈ figures.flatMap (figureScript dataset) := by
      refine List.mem_flatMap.mpr ⟨figure, member, ?_⟩
      rw [figureScript_eq_crash laidOut]
      exact List.mem_cons_self
    cases sound _ crash

theorem figures_render (laidOut : ∀ figure ∈ figures, ∃ layout, figure.layout? dataset = some layout) :
    (figures.flatMap (figureScript dataset)).flatMap Step.announced = figures.map Figure.output ∧
      (figures.flatMap (figureScript dataset)).flatMap Step.written =
        figures.flatMap (fun figure => (Line.generated figure.output).bytes) ∧
      List.Forall₂ (fun figure layout => figure.layout? dataset = some layout) figures
        ((figures.flatMap (figureScript dataset)).flatMap Step.drawn) := by
  induction figures with
  | nil => exact ⟨rfl, rfl, .nil⟩
  | cons figure rest inductionHypothesis =>
    rw [List.forall_mem_cons] at laidOut
    obtain ⟨⟨layout, drawn⟩, others⟩ := laidOut
    obtain ⟨announced, written, forall₂⟩ := inductionHypothesis others
    simp only [List.flatMap_cons, figureScript_eq drawn, List.flatMap_append, announced, written]
    exact ⟨rfl, by simp [Step.written], .cons drawn forall₂⟩

end Figures

/-! ## Sections -/

/-- Steps render sections if what they announce, draw and write is what is found for the scenarios of
these sections. -/
structure Renders (tree : FileTree) (sections : List Section) (steps : List Step) : Prop where
  announced : steps.flatMap Step.announced =
    (sections.filter (Section.isLive tree)).flatMap fun part => part.figures.map Figure.output
  drawn : List.Forall₂ (fun entry layout => entry.2.Depicts tree entry.1.scenarios layout)
    ((sections.filter (Section.isLive tree)).flatMap fun part => part.figures.map (part, ·))
    (steps.flatMap Step.drawn)
  written : steps.flatMap Step.written =
    (sections.flatMap (Section.console tree)).flatMap fun line => line.toUTF8.data.toList

theorem Renders.append {tree : FileTree} {first second : List Section} {steps more : List Step}
    (firstRendered : Renders tree first steps) (secondRendered : Renders tree second more) :
    Renders tree (first ++ second) (steps ++ more) := by
  constructor
  · rw [List.flatMap_append, firstRendered.announced, secondRendered.announced, List.filter_append,
      List.flatMap_append]
  · rw [List.flatMap_append, List.filter_append, List.flatMap_append]
    exact List.rel_append firstRendered.drawn secondRendered.drawn
  · rw [List.flatMap_append, firstRendered.written, secondRendered.written, List.flatMap_append,
      List.flatMap_append]

theorem renders_log (tree : FileTree) (events : List Event) :
    Renders tree [] (events.map .log) := by
  constructor
  · simp [List.flatMap_map, Step.announced]
  · simp [List.flatMap_map, Step.drawn]
  · simp [List.flatMap_map, Step.written]

theorem renders_loadedSteps (tree : FileTree) (part : Section)
    (distinct : ((part.found tree).map Measurement.scenario).Nodup)
    (sound : ∀ step ∈ loadedSteps tree part, step.ends = false) :
    Renders tree [part] (loadedSteps tree part) := by
  unfold loadedSteps at sound ⊢
  cases live : part.isLive tree with
  | false =>
    constructor
    · simp [List.flatMap_map, Step.announced, Line.output?, live]
    · simp [List.flatMap_map, Step.drawn, live]
    · simp [List.flatMap_map, Step.written, Section.console, Section.lines, live, Line.bytes]
  | true =>
    simp only [live, if_true] at sound ⊢
    -- No step is a crash, so that there is a layout for every figure.
    have laidOut : ∀ figure ∈ part.figures, ∃ layout,
        figure.layout? ⟨part.found tree⟩ = some layout :=
      fun figure member =>
        layout_of_sound (fun step inside => sound step (List.mem_append_right _ inside)) member
    obtain ⟨announced, written, drawn⟩ := figures_render laidOut
    constructor
    · rw [List.flatMap_append, announced]
      simp [List.flatMap_map, Step.announced, Line.output?, live]
    · have onlyWarned : ((part.missing tree).map fun path => Step.print (.skipped path)).flatMap
          Step.drawn = [] := by
        simp [List.flatMap_map, Step.drawn]
      rw [List.flatMap_append, onlyWarned, List.nil_append]
      simp only [List.filter_cons, live, if_true, List.filter_nil, List.flatMap_singleton,
        List.forall₂_map_left_iff]
      exact drawn.imp fun figure layout laidOut => Figure.depicts_of_layout? rfl distinct laidOut
    · rw [List.flatMap_append, written]
      simp [List.flatMap_map, Step.written, Section.console, Section.lines, live, Line.bytes]

theorem renders_sectionScript (tree : FileTree) (part : Section)
    (sound : ∀ step ∈ sectionScript tree part, step.ends = false) :
    Renders tree [part] (sectionScript tree part) := by
  obtain ⟨distinct, script⟩ := sectionScript_of_sound sound
  rw [script part.figures] at sound ⊢
  have loadedSound := fun step inside => sound step (List.mem_append_right _ inside)
  exact (renders_log tree _).append (renders_loadedSteps tree part distinct loadedSound)

theorem renders_sections (tree : FileTree) (sections : List Section)
    (sound : ∀ step ∈ sections.flatMap (sectionScript tree), step.ends = false) :
    Renders tree sections (sections.flatMap (sectionScript tree)) := by
  induction sections with
  | nil => exact ⟨rfl, .nil, rfl⟩
  | cons part rest inductionHypothesis =>
    rw [List.flatMap_cons] at sound ⊢
    have first := renders_sectionScript tree part fun step inside =>
      sound step (List.mem_append_left _ inside)
    have others := inductionHypothesis fun step inside =>
      sound step (List.mem_append_right _ inside)
    exact first.append others

theorem script_of_sound {tree : FileTree} {config : Config}
    (sound : ∀ step ∈ script tree config, step.ends = false) :
    script tree config = config.sections.flatMap (sectionScript tree) := by
  cases checked : config.check with
  | ok accepted => exact script_of_ok checked tree
  | error failure =>
    have failed : Step.fail (failure.within .reportConfig) ∈ script tree config := by
      simp only [script_of_error checked, List.mem_cons_self]
    cases sound _ failed

theorem renders_of_completed {refused : List Path} {limit : Option Nat} {tree : FileTree}
    {config : Config} {trace : Trace (List Figure.Layout)}
    (completed : run (Drawing.recording refused) limit [] tree config = (.completed, trace)) :
    ∃ steps, trace = (Trace.start []).followedBy steps ∧ Renders tree config.sections steps := by
  have left := Trace.performAll_completed refused limit _ _ _ completed
  have sound := Trace.ends_of_performAll_completed (Drawing.recording refused) limit _ _
    (congrArg Prod.fst completed)
  have accepted := script_of_sound sound
  rw [accepted] at left sound
  exact ⟨_, left, renders_sections tree config.sections sound⟩

/-- A completed run has drawn each figure of a section in which anything is found. -/
theorem layout_of_completed {refused : List Path} {limit : Option Nat} {tree : FileTree}
    {config : Config} {trace : Trace (List Figure.Layout)}
    (completed : run (Drawing.recording refused) limit [] tree config = (.completed, trace))
    {part : Section} (member : part ∈ config.sections) (live : part.isLive tree = true)
    {figure : Figure} (shown : figure ∈ part.figures) :
    ∃ layout ∈ trace.backend, figure.layout? ⟨part.found tree⟩ = some layout := by
  obtain rfl := Trace.performAll_completed refused limit _ _ _ completed
  have sound := Trace.ends_of_performAll_completed (Drawing.recording refused) limit _ _
    (congrArg Prod.fst completed)
  have script := script_of_sound sound
  rw [script] at sound ⊢
  have soundPart : ∀ step ∈ sectionScript tree part, step.ends = false := fun step inside =>
    sound step (List.mem_flatMap.mpr ⟨part, member, inside⟩)
  obtain ⟨_, partScript⟩ := sectionScript_of_sound soundPart
  have figures : ∀ step ∈ part.figures.flatMap (figureScript ⟨part.found tree⟩),
      step ∈ sectionScript tree part := by
    intro step inside
    rw [partScript part.figures, loadedSteps, live, if_pos rfl]
    exact List.mem_append_right _ (List.mem_append_right _ inside)
  obtain ⟨layout, laidOut⟩ := layout_of_sound
    (fun step inside => soundPart step (figures step inside)) shown
  have drawn : Step.draw layout ∈ part.figures.flatMap (figureScript ⟨part.found tree⟩) := by
    refine List.mem_flatMap.mpr ⟨figure, shown, ?_⟩
    rw [figureScript_eq laidOut]
    exact List.mem_cons_self
  refine ⟨layout, ?_, laidOut⟩
  rw [Trace.followedBy_backend]
  refine List.mem_append_right _ (List.mem_flatMap.mpr ⟨.draw layout, ?_, List.mem_singleton_self _⟩)
  exact List.mem_flatMap.mpr ⟨part, member, figures _ drawn⟩

/-- A completed run has drawn and announced the figures of the live sections in order, each from the
values that are found for its scenarios, and has said so section by section. -/
theorem completed_run_renders_what_is_loaded (refused : List Path) (limit : Option Nat)
    (tree : FileTree) (config : Config) (trace : Trace (List Figure.Layout))
    (completed : run (Drawing.recording refused) limit [] tree config = (.completed, trace)) :
    let live := config.sections.filter (Section.isLive tree)
    trace.generated = live.flatMap (fun part => part.figures.map Figure.output) ∧
      List.Forall₂ (fun entry layout => entry.2.Depicts tree entry.1.scenarios layout)
        (live.flatMap fun part => part.figures.map (part, ·)) trace.backend ∧
      trace.output =
        (config.sections.flatMap (Section.console tree)).flatMap fun line => line.toUTF8.data.toList := by
  obtain ⟨steps, rfl, rendered⟩ := renders_of_completed completed
  exact ⟨rendered.announced, rendered.drawn, rendered.written⟩

/-- A report with a scenario that lacks a value, a missing file and a section without any data. -/
def patchyReport : Config where
  sections :=
    [{ scenarios :=
        [⟨"Uniform", .embedded ⟨some 326.5, none, some 1.79⟩⟩,
          ⟨"Hot-Spot", .file ⟨"hotspot.json"⟩⟩,
          ⟨"Burst", .embedded ⟨none, some 23.8, some 87.4⟩⟩]
       figures :=
        [.create ⟨"load.png"⟩
          [{ title := "Load", kind := .line, metrics := [.throughput, .abortRate], xLabel := none,
             yLabel := "", labelFormat := ⟨"%d", [.integer]⟩, yMax := none, labelOffset := 0,
             colors := none }]] },
      { scenarios := [⟨"Cold", .file ⟨"cold.json"⟩⟩]
        figures :=
        [.create ⟨"cold.png"⟩
          [{ title := "Cold", kind := .bar, metrics := [.throughput], xLabel := none, yLabel := "",
             labelFormat := ⟨"%d", [.integer]⟩, yMax := none, labelOffset := 0, colors := none }]] }]

def patchyRun : Ending × Trace (List Figure.Layout) :=
  run (Drawing.recording []) none [] FileTree.empty patchyReport

theorem patchyReport_renders_what_is_loaded :
    patchyRun.1 = .completed ∧ patchyRun.2.generated = [⟨"load.png"⟩] ∧
      List.Forall₂ (fun entry layout => entry.2.Depicts FileTree.empty entry.1.scenarios layout)
        ((patchyReport.sections.take 1).flatMap fun part => part.figures.map (part, ·))
        patchyRun.2.backend ∧
      patchyRun.2.output =
        ("Warning: hotspot.json not found. Skipping.\nGenerated load.png\n" ++
          "Warning: cold.json not found. Skipping.\nNo data found.\n").toUTF8.data.toList := by
  have ending : patchyRun.1 = .completed := by decide +kernel
  have live : patchyReport.sections.filter (Section.isLive FileTree.empty) =
      patchyReport.sections.take 1 := by decide +kernel
  have completed : patchyRun = (.completed, patchyRun.2) := by rw [← ending]
  have rendered := completed_run_renders_what_is_loaded [] none FileTree.empty patchyReport
    patchyRun.2 completed
  simp only [live] at rendered
  obtain ⟨generated, drawn, written⟩ := rendered
  exact ⟨ending, generated.trans (by decide +kernel), drawn, written.trans (by decide +kernel)⟩

end Report

end LoadReport
