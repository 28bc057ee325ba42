import LoadReport.Proofs.Run.Refusals

/-!
# How accepted reports fail

Once a configuration is accepted, the labels of each section are known to differ and what is loaded
is known to be in range, so that a dataset is made of everything that loads. What is left to go wrong
are the three things that a run asks of its surroundings: the files of a section, the backend and the
console. `FailsBy` names them, each with the step at which it strikes.
-/

namespace LoadReport

open Outcomes

/-- Whatever an accepted section has loaded makes up a dataset. -/
theorem Section.WellFormed.collects {part : Section} (wellFormed : part.WellFormed) {tree : FileTree}
    {findings : List Finding}
    (loaded : (Scenario.loadAll tree part.scenarios).outcome = .ok findings) :
    ∃ dataset absent, Dataset.ofFindings findings = .ok (dataset, absent) ∧
      Dataset.Collects tree part.scenarios dataset absent := by
  have loads := (Scenario.loadAll_outcome_eq_ok_iff tree part.scenarios findings).mp loaded
  exact Dataset.exists_collects loads wellFormed.labels

namespace Report

/-! ## Steps of a section -/

section

variable {tree : FileTree} {part : Section}

/-- The only failure in the script of an accepted section is that of loading its scenarios. -/
theorem load_failed_of_mem_sectionScript (wellFormed : part.WellFormed) {failure : Failure}
    (member : Step.fail failure ∈ sectionScript tree part) :
    ∃ inner, (Scenario.loadAll tree part.scenarios).outcome = .error inner ∧
      failure = inner.within .loadScenarios := by
  cases loading : (Scenario.loadAll tree part.scenarios).outcome with
  | error inner =>
    simp [sectionScript, loading] at member
    exact ⟨inner, rfl, member⟩
  | ok findings =>
    -- Everything is loaded, and neither warnings nor figures fail in a script.
    obtain ⟨dataset, absent, collected, _⟩ := wellFormed.collects loading
    have loads := (Scenario.loadAll_outcome_eq_ok_iff tree part.scenarios findings).mp loading
    have script := (loadedScript_eq part loads collected).2
    simp only [sectionScript, loading, script, List.mem_append] at member
    obtain logged | failed := member
    · simp at logged
    · exact absurd failed not_fail_of_mem_loadedSteps

end

/-! ## Ways to fail -/

section

variable {σ : Type} (backend : Drawing.Backend σ) (limit : Option Nat) (tree : FileTree)
  (config : Config)

/-- How a step fails behind what has been brought about so far: a section cannot be loaded, the backend
does not draw the layout of a figure, or a line does not fit on the console. -/
inductive FailsBy (reached : Trace σ) : Step → Failure → Prop where
  | loading {part : Section} {inner : Failure} (member : part ∈ config.sections)
      (failed : (Scenario.loadAll tree part.scenarios).outcome = .error inner) :
      FailsBy reached (.fail (inner.within .loadScenarios)) (inner.within .loadScenarios)
  | drawing {part : Section} {figure : Figure} {layout : Figure.Layout} {inner : Failure}
      (member : part ∈ config.sections) (shown : figure ∈ part.figures)
      (laidOut : figure.layout? ⟨part.found tree⟩ = some layout)
      (refused : (backend.draw reached.backend layout).1 = .error inner) :
      FailsBy reached (.draw layout) (inner.within (.drawFigure figure.output))
  | writing {line : Line} (tooLong : ¬ line.Fits limit reached.output.length) :
      FailsBy reached (.print line) (Failure.ofCause (.file .brokenPipe))

variable {backend limit tree config}

theorem FailsBy.perform {reached : Trace σ} {step : Step} {failure : Failure}
    (fails : FailsBy backend limit tree config reached step failure) :
    (reached.perform backend limit step).1 = .failed failure := by
  cases fails with
  | loading member failed => rfl
  | drawing member shown laidOut refused =>
    obtain ⟨charts, _, rfl⟩ := (Figure.layout?_eq_some_iff _ _ _).mp laidOut
    simp only [Trace.perform]
    split
    next drawn =>
      rw [drawn] at refused
      obtain rfl := Except.error.inj refused
      rfl
    next drawn =>
      rw [drawn] at refused
      cases refused
  | writing tooLong =>
    obtain ⟨room, _, emitted⟩ := Trace.emit_of_not_fits limit tooLong
    simp only [Trace.perform, emitted]

/-- A step of an accepted report fails in one of the three ways. -/
theorem failsBy_of_perform_failed (accepted : config.check = .ok ()) {reached : Trace σ} {step : Step}
    (member : step ∈ script tree config) {failure : Failure}
    (failed : (reached.perform backend limit step).1 = .failed failure) :
    FailsBy backend limit tree config reached step failure := by
  obtain ⟨part, among, wellFormed, inside⟩ := exists_section_of_mem_script accepted member
  cases step with
  | log event => cases failed
  | print line =>
    by_cases fits : line.Fits limit reached.output.length
    · simp [Trace.perform, Trace.emit_of_fits limit fits] at failed
    · obtain ⟨room, _, emitted⟩ := Trace.emit_of_not_fits limit fits
      simp only [Trace.perform, emitted, Ending.failed.injEq] at failed
      subst failed
      exact .writing fits
  | draw layout =>
    obtain ⟨figure, shown, laidOut⟩ := figure_of_mem_sectionScript inside
    have output : layout.output = figure.output := by
      obtain ⟨charts, _, rfl⟩ := (Figure.layout?_eq_some_iff _ _ _).mp laidOut
      rfl
    rcases drawn : backend.draw reached.backend layout with ⟨outcome, next⟩
    cases outcome with
    | ok success => simp [Trace.perform, drawn] at failed
    | error inner =>
      simp only [Trace.perform, drawn, output, Ending.failed.injEq] at failed
      subst failed
      exact .drawing among shown laidOut (by rw [drawn])
  | fail other =>
    obtain rfl := Ending.failed.inj failed
    obtain ⟨inner, unloaded, rfl⟩ :=
      load_failed_of_mem_sectionScript wellFormed inside
    exact .loading among unloaded
  | crash => cases failed

end

/-! ## Whole runs -/

section

variable {σ : Type} (backend : Drawing.Backend σ) (limit : Option Nat) (initial : σ) (tree : FileTree)
  (config : Config)

/-- A run comes to a step of its script by completing everything in front of it, and the step fails in
one of the three ways. -/
def ComesToFail (failure : Failure) : Prop :=
  ∃ before step after reached, script tree config = before ++ step :: after ∧
    (Trace.start initial).performAll backend limit before = (.completed, reached) ∧
    FailsBy backend limit tree config reached step failure

/-- In an accepted report, everything that is loaded makes up a dataset. So a run fails exactly where
it comes to a section that cannot be loaded, a figure that is not drawn or a line that cannot be
written, and its failure says which of these it was. -/
theorem accepted_run_fails_in_three_ways (accepted : config.check = .ok ()) :
    (∀ part ∈ config.sections, ∀ findings,
      (Scenario.loadAll tree part.scenarios).outcome = .ok findings →
        ∃ dataset absent, Dataset.ofFindings findings = .ok (dataset, absent)) ∧
      ∀ failure, (run backend limit initial tree config).1 = .failed failure ↔
        ComesToFail backend limit initial tree config failure := by
  have wellFormed := (config.check_eq_ok_iff).mp accepted
  refine ⟨?_, fun failure => ?_⟩
  · intro part member findings loaded
    obtain ⟨dataset, absent, collected, _⟩ := (wellFormed.sections part member).collects loaded
    exact ⟨dataset, absent, collected⟩
  · rw [run, Trace.performAll_stopped_iff backend limit _ (by simp)]
    constructor
    · intro ends
      obtain ⟨before, step, after, reached, split, completed, failed⟩ := ends
      have member : step ∈ script tree config := by simp [split]
      exact ⟨before, step, after, reached, split, completed,
        failsBy_of_perform_failed accepted member failed⟩
    · intro fails
      obtain ⟨before, step, after, reached, split, completed, way⟩ := fails
      exact ⟨before, step, after, reached, split, completed, way.perform⟩

end

/-- One bar to draw, and then a section with a scenario that fails to load. -/
def barThenWild : Config :=
  ⟨(barTo [⟨"a.png"⟩]).sections ++ [wildSection]⟩

theorem barThenWild_fails_in_three_ways :
    let failing (refused : List Path) (limit : Option Nat) (failure : Failure) :=
      (run (Drawing.recording refused) limit [] Scenario.mixedFolder barThenWild).1 =
          .failed failure ∧
        ComesToFail (Drawing.recording refused) limit [] Scenario.mixedFolder barThenWild failure
    barThenWild.check = .ok () ∧
      failing [] none ⟨[.loadScenarios, .metricsOf "D"], .aboveMaximum "D" .abortRate 100 140⟩ ∧
      failing [⟨"a.png"⟩] none ⟨[.drawFigure ⟨"a.png"⟩], .drawingRefused⟩ ∧
      failing [] (some 5) ⟨[], .file .brokenPipe⟩ := by
  intro failing
  have accepted : barThenWild.check = .ok () := by decide +kernel
  have comes : ∀ refused limit failure,
      (run (Drawing.recording refused) limit [] Scenario.mixedFolder barThenWild).1 =
        .failed failure → failing refused limit failure := by
    intro refused limit failure failed
    obtain ⟨_, exactly⟩ := accepted_run_fails_in_three_ways (Drawing.recording refused) limit []
      Scenario.mixedFolder barThenWild accepted
    exact ⟨failed, (exactly failure).mp failed⟩
  refine ⟨accepted, comes _ _ _ ?_, comes _ _ _ ?_, comes _ _ _ ?_⟩
  · decide +kernel
  · decide +kernel
  · decide +kernel

end Report

end LoadReport
