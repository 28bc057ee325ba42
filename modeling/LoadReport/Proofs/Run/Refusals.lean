import LoadReport.Proofs.Loading.Order
import LoadReport.Proofs.Run.Composition

/-!
# Sections that fail to load

All scenarios of a section are loaded before anything else is done for it. So a section that fails
to load adds nothing to a run but the events of loading, and the run ends there with what the
sections before it have left behind.
-/

namespace LoadReport

open Outcomes

/-- The backend draws whatever it is given. -/
def Drawing.Backend.NeverFails {σ : Type} (backend : Drawing.Backend σ) : Prop :=
  ∀ state layout, (backend.draw state layout).1 = .ok ()

theorem Drawing.recording_neverFails : (Drawing.recording []).NeverFails := by
  intro state layout
  simp [Drawing.recording]

namespace Report

variable {σ : Type} {backend : Drawing.Backend σ}

namespace Trace

/-- Where neither the console nor the backend fails, a run fails only where its script does. -/
theorem fail_of_perform_failed (neverFails : backend.NeverFails) {trace : Trace σ} {step : Step}
    {failure : Failure} (failed : (trace.perform backend none step).1 = .failed failure) :
    step = .fail failure := by
  cases step with
  | log event => cases failed
  | print line => cases failed
  | draw layout =>
    rcases drawn : backend.draw trace.backend layout with ⟨outcome, next⟩
    have passed := neverFails trace.backend layout
    rw [drawn] at passed
    obtain rfl : outcome = .ok () := passed
    simp only [perform, drawn] at failed
    cases failed
  | fail other =>
    obtain rfl := Ending.failed.inj failed
    rfl
  | crash => cases failed

theorem fail_of_performAll_failed (neverFails : backend.NeverFails) {trace : Trace σ}
    {steps : List Step} {failure : Failure}
    (failed : (trace.performAll backend none steps).1 = .failed failure) :
    Step.fail failure ∈ steps := by
  induction steps generalizing trace with
  | nil => cases failed
  | cons step rest inductionHypothesis =>
    obtain ⟨next, _, onward⟩ | ⟨_, halted⟩ := performAll_cons backend none trace step
    · rw [onward] at failed
      exact List.mem_cons_of_mem _ (inductionHypothesis failed)
    · rw [halted] at failed
      rw [fail_of_perform_failed neverFails failed]
      exact List.mem_cons_self

theorem performAll_logs (backend : Drawing.Backend σ) (limit : Option Nat) (trace : Trace σ)
    (events : List Event) :
    trace.performAll backend limit (events.map .log) =
      (.completed, { trace with events := trace.events ++ events }) := by
  induction events generalizing trace with
  | nil => simp [performAll]
  | cons event rest inductionHypothesis =>
    rw [List.map_cons, performAll]
    simp only [perform, inductionHypothesis]
    simp

end Trace

/-! ## Scripts of sections that load and of sections that fail to -/

theorem sectionScript_of_loads {tree : FileTree} {part : Section}
    (load : ∀ scenario ∈ part.scenarios, scenario.Loads tree)
    (distinct : (part.scenarios.map Scenario.label).Nodup) :
    sectionScript tree part =
      (part.scenarios.flatMap (Scenario.logged tree)).map .log ++ loadedSteps tree part := by
  obtain ⟨findings, loading⟩ := Scenario.loadAll_of_loads load
  have outcome : (Scenario.loadAll tree part.scenarios).outcome = .ok findings := by rw [loading]
  have loads := (Scenario.loadAll_outcome_eq_ok_iff tree part.scenarios findings).mp outcome
  obtain ⟨dataset, absent, collected, _⟩ := Dataset.exists_collects loads distinct
  rw [← (loadedScript_eq part loads collected).2]
  simp only [sectionScript, loading]

theorem sectionScript_of_first_failure {tree : FileTree} {before after : List Scenario}
    {failing : Scenario} {failure : Failure} (load : ∀ scenario ∈ before, scenario.Loads tree)
    (failed : (failing.load tree).outcome = .error failure) (figures : List Figure) :
    sectionScript tree ⟨before ++ failing :: after, figures⟩ =
      ((before ++ [failing]).flatMap (Scenario.logged tree)).map .log ++
        [.fail (failure.within .loadScenarios)] := by
  simp only [sectionScript, Scenario.loadAll_of_first_failure load failed after]

theorem not_fail_of_mem_figureScript {dataset : Dataset} {figure : Figure} {failure : Failure} :
    Step.fail failure ∉ figureScript dataset figure := by
  intro fails
  cases laidOut : figure.layout? dataset with
  | none => simp [figureScript_eq_crash laidOut] at fails
  | some layout => simp [figureScript_eq laidOut] at fails

theorem not_fail_of_mem_loadedSteps {tree : FileTree} {part : Section} {failure : Failure} :
    Step.fail failure ∉ loadedSteps tree part := by
  intro fails
  rw [loadedSteps, List.mem_append] at fails
  obtain skipped | drawn := fails
  · obtain ⟨_, _, impossible⟩ := List.mem_map.mp skipped
    cases impossible
  · split at drawn
    next =>
      obtain ⟨figure, _, fails⟩ := List.mem_flatMap.mp drawn
      exact not_fail_of_mem_figureScript fails
    next => cases List.mem_singleton.mp drawn

/-- The script of an accepted report does not fail if all its scenarios load. -/
theorem not_fail_of_mem_script {tree : FileTree} {config : Config}
    (accepted : config.check = .ok ())
    (load : ∀ part ∈ config.sections, ∀ scenario ∈ part.scenarios, scenario.Loads tree)
    {failure : Failure} : Step.fail failure ∉ script tree config := by
  intro fails
  obtain ⟨part, member, wellFormed, fails⟩ := exists_section_of_mem_script accepted fails
  rw [sectionScript_of_loads (load part member) wellFormed.labels, List.mem_append] at fails
  obtain logged | fails := fails
  · obtain ⟨_, _, impossible⟩ := List.mem_map.mp logged
    cases impossible
  · exact not_fail_of_mem_loadedSteps fails

/-! ## Runs -/

section

variable {initial : σ} {tree : FileTree}

theorem run_completed_of_loads {config : Config} (accepted : config.check = .ok ())
    (neverFails : backend.NeverFails)
    (load : ∀ part ∈ config.sections, ∀ scenario ∈ part.scenarios, scenario.Loads tree)
    (noCrash : (run backend none initial tree config).1 ≠ .crashed) :
    (run backend none initial tree config).1 = .completed := by
  cases ended : (run backend none initial tree config).1 with
  | completed => rfl
  | failed failure =>
    have fails := Trace.fail_of_performAll_failed neverFails ended
    exact absurd fails (not_fail_of_mem_script accepted load)
  | crashed => exact absurd ended noCrash

/-- A run of more sections does the same as without them, and only goes on if it has completed. -/
theorem run_more (backend : Drawing.Backend σ) (limit : Option Nat) (initial : σ) (tree : FileTree)
    {first second : List Section} (accepted : Config.check ⟨first ++ second⟩ = .ok ()) :
    run backend limit initial tree ⟨first ++ second⟩ =
      match run backend limit initial tree ⟨first⟩ with
      | (.completed, trace) => trace.performAll backend limit (script tree ⟨second⟩)
      | stopped => stopped := by
  rw [run, script_append tree accepted, Trace.performAll_append]
  rfl

theorem performAll_of_first_failure {trace : Trace σ} {part : Section} {after : List Section}
    (accepted : Config.check ⟨part :: after⟩ = .ok ()) {loaded others : List Scenario}
    {failing : Scenario} {failure : Failure}
    (scenarios : part.scenarios = loaded ++ failing :: others)
    (load : ∀ scenario ∈ loaded, scenario.Loads tree)
    (failed : (failing.load tree).outcome = .error failure) :
    trace.performAll backend none (script tree ⟨part :: after⟩) =
      (.failed (failure.within .loadScenarios),
        { trace with events :=
            trace.events ++ (loaded ++ [failing]).flatMap (Scenario.logged tree) }) := by
  obtain ⟨_, figures⟩ := part
  obtain rfl := scenarios
  rw [script_of_ok accepted, List.flatMap_cons, sectionScript_of_first_failure load failed,
    List.append_assoc, Trace.performAll_append, Trace.performAll_logs]
  rfl

end

/-- A section in which a scenario fails to load leaves nothing behind but the events of loading, and
its failure ends the run. A configuration that is not accepted leaves nothing behind at all, and its
failure has nothing to do with files, console or backend. -/
theorem refused_section_leaves_only_events (backend : Drawing.Backend σ) (initial : σ)
    (tree : FileTree) (config : Config) :
    (∀ before part after, config.sections = before ++ part :: after →
      config.check = .ok () → backend.NeverFails →
      (run backend none initial tree config).1 ≠ .crashed →
      (∀ earlier ∈ before, ∀ scenario ∈ earlier.scenarios, scenario.Loads tree) →
      (¬ ∀ scenario ∈ part.scenarios, scenario.Loads tree) →
      ∃ trace loaded failing others failure,
        run backend none initial tree ⟨before⟩ = (.completed, trace) ∧
          part.scenarios = loaded ++ failing :: others ∧
          (∀ scenario ∈ loaded, scenario.Loads tree) ∧
          (failing.load tree).outcome = .error failure ∧
          run backend none initial tree config =
            (.failed (failure.within .loadScenarios),
              { trace with events :=
                  trace.events ++ (loaded ++ [failing]).flatMap (Scenario.logged tree) })) ∧
      ∀ failure, config.check = .error failure → ∀ limit otherTree,
        run backend limit initial otherTree config =
          (.failed (failure.within .reportConfig), Trace.start initial) := by
  constructor
  · intro before part after split accepted neverFails noCrash loadBefore fails
    obtain ⟨sections⟩ := config
    obtain rfl : sections = before ++ part :: after := split
    obtain load | ⟨loaded, failing, others, failure, scenarios, load, failed⟩ :=
      Scenario.loads_or_first_failure tree part.scenarios
    · exact absurd load fails
    obtain ⟨acceptedBefore, acceptedBehind⟩ := Config.check_append accepted
    have whole := run_more backend none initial tree accepted
    -- A crash of the first sections would be a crash of the whole run.
    have noCrashBefore : (run backend none initial tree ⟨before⟩).1 ≠ .crashed := by
      intro crashed
      rcases ended : run backend none initial tree ⟨before⟩ with ⟨ending, trace⟩
      rw [ended] at crashed whole
      obtain rfl : ending = .crashed := crashed
      rw [whole] at noCrash
      exact noCrash rfl
    have completed := run_completed_of_loads acceptedBefore neverFails loadBefore noCrashBefore
    rcases ended : run backend none initial tree ⟨before⟩ with ⟨ending, trace⟩
    rw [ended] at completed whole
    obtain rfl : ending = .completed := completed
    refine ⟨trace, loaded, failing, others, failure, rfl, scenarios, load, failed, ?_⟩
    rw [whole]
    exact performAll_of_first_failure acceptedBehind scenarios load failed
  · intro failure refused limit otherTree
    rw [run, script_of_error refused]
    rfl

/-- A section with a scenario that fails to load between two that are missing. -/
def wildSection : Section where
  scenarios :=
    [⟨"C", .file ⟨"none.json"⟩⟩, Scenario.wildScenario, ⟨"E", .file ⟨"none.json"⟩⟩]
  figures := (barTo [⟨"b.png"⟩]).sections.flatMap Section.figures

theorem wild_section_leaves_only_events :
    let before := (barTo [⟨"a.png"⟩]).sections
    let report (sections : List Section) :=
      run (Drawing.recording []) none [] Scenario.mixedFolder ⟨sections⟩
    Config.check ⟨before ++ [wildSection]⟩ = .ok () ∧ (Drawing.recording []).NeverFails ∧
      (report (before ++ [wildSection])).1 ≠ .crashed ∧
      (∀ earlier ∈ before, ∀ scenario ∈ earlier.scenarios,
        scenario.Loads Scenario.mixedFolder) ∧
      (¬ ∀ scenario ∈ wildSection.scenarios, scenario.Loads Scenario.mixedFolder) ∧
      (∃ trace loaded failing others failure, report before = (.completed, trace) ∧
        wildSection.scenarios = loaded ++ failing :: others ∧
        (∀ scenario ∈ loaded, scenario.Loads Scenario.mixedFolder) ∧
        (failing.load Scenario.mixedFolder).outcome = .error failure ∧
        report (before ++ [wildSection]) =
          (.failed (failure.within .loadScenarios),
            { trace with events := trace.events ++
                (loaded ++ [failing]).flatMap (Scenario.logged Scenario.mixedFolder) })) ∧
      (barTo []).check = .error ⟨[], .noFigures⟩ ∧
      run (Drawing.recording []) none [] Scenario.mixedFolder (barTo []) =
        (.failed ⟨[.reportConfig], .noFigures⟩, Trace.start []) := by
  intro before report
  have accepted : Config.check ⟨before ++ [wildSection]⟩ = .ok () := by decide +kernel
  have noCrash : (report (before ++ [wildSection])).1 ≠ .crashed := by decide +kernel
  have loads : ∀ earlier ∈ before, ∀ scenario ∈ earlier.scenarios,
      scenario.Loads Scenario.mixedFolder := by
    intro earlier member scenario among
    obtain rfl := List.mem_singleton.mp member
    obtain rfl := List.mem_singleton.mp among
    exact ⟨.found ⟨"Uniform", some 326.5, none, none⟩, by decide +kernel⟩
  have fails : ¬ ∀ scenario ∈ wildSection.scenarios, scenario.Loads Scenario.mixedFolder := by
    intro load
    obtain ⟨finding, loaded⟩ := load Scenario.wildScenario (by simp [wildSection])
    have failed : (Scenario.wildScenario.load Scenario.mixedFolder).outcome =
        .error ⟨[.metricsOf "D"], .aboveMaximum "D" .abortRate 100 140⟩ := by decide +kernel
    rw [failed] at loaded
    cases loaded
  have refused : (barTo []).check = .error ⟨[], .noFigures⟩ := by decide +kernel
  obtain ⟨onward, _⟩ := refused_section_leaves_only_events (Drawing.recording []) []
    Scenario.mixedFolder ⟨before ++ [wildSection]⟩
  obtain ⟨_, nothing⟩ := refused_section_leaves_only_events (Drawing.recording []) []
    Scenario.mixedFolder (barTo [])
  exact ⟨accepted, Drawing.recording_neverFails, noCrash, loads, fails,
    onward before wildSection [] rfl accepted Drawing.recording_neverFails noCrash loads fails,
    refused, nothing _ refused none Scenario.mixedFolder⟩

end Report

end LoadReport
