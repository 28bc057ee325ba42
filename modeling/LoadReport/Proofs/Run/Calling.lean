import LoadReport.Proofs.Run.Faults
import LoadReport.Proofs.Run.Saving

/-!
# Drawing by calls refines recording

A run looks at nothing of a backend but whether it draws a layout. So the run on a backend that only
keeps layouts tells what happens on any other one: as long as the layouts that it keeps are drawn, the
two go together, and where one of them is not, the other stops right there. Calls on the drawing
library are an instance; a call that raises stands for a refused output. What recording does not do is
to save images, so that this holds as long as no section reads what an image has changed.

* `Drawing.Backend.drawAll?` — drawing several layouts, if all of them are drawn.
* `Trace.performAll_of_drawAll?` — a run on a backend that draws everything.
* `Trace.performAll_of_undrawn` — a run on a backend that stops at a layout.
-/

namespace LoadReport

namespace Drawing

/-- The state of a backend after layouts that are drawn one after the other; nothing if one of them is
not drawn. -/
def Backend.drawAll? {σ : Type} (backend : Backend σ) (state : σ) : List Figure.Layout → Option σ
  | [] => some state
  | layout :: rest =>
    match backend.draw state layout with
    | (.ok (), next) => backend.drawAll? next rest
    | (.error _, _) => none

theorem Backend.drawAll?_append {σ : Type} (backend : Backend σ) (state : σ)
    (first second : List Figure.Layout) :
    backend.drawAll? state (first ++ second) =
      (backend.drawAll? state first).bind fun next => backend.drawAll? next second := by
  induction first generalizing state with
  | nil => rfl
  | cons layout rest inductionHypothesis =>
    rcases drew : backend.draw state layout with ⟨outcome, next⟩
    cases outcome with
    | ok success => simp only [List.cons_append, drawAll?, drew, inductionHypothesis]
    | error failure => simp only [List.cons_append, drawAll?, drew, Option.bind_none]

theorem recording_drawAll? {refused : List Path} {layouts : List Figure.Layout}
    (accepted : ∀ layout ∈ layouts, layout.output ∉ refused) (kept : List Figure.Layout) :
    (recording refused).drawAll? kept layouts = some (kept ++ layouts) := by
  induction layouts generalizing kept with
  | nil => simp [Backend.drawAll?]
  | cons layout rest inductionHypothesis =>
    rw [List.forall_mem_cons] at accepted
    obtain ⟨first, others⟩ := accepted
    have drawn : (recording refused).draw kept layout = (.ok (), kept ++ [layout]) := by
      simp [recording, first]
    simp only [Backend.drawAll?, drawn, inductionHypothesis others, List.append_assoc,
      List.singleton_append]

namespace Session

variable (fault : Fault) (session : Session)

theorem drawAll_append (first second : List Figure.Layout) :
    session.drawAll fault (first ++ second) =
      ((session.drawAll fault first).1 ++ ((session.drawAll fault first).2.drawAll fault second).1,
        ((session.drawAll fault first).2.drawAll fault second).2) := by
  induction first generalizing session with
  | nil => rfl
  | cons layout rest inductionHypothesis =>
    simp only [List.cons_append, drawAll, inductionHypothesis]

/-- Calls fail in one way only: one of them raises. -/
theorem perform_eq_raised {calls : List Call} (raised : (session.perform fault calls).1 ≠ .ok ()) :
    (session.perform fault calls).1 = .error (Failure.ofCause .drawingRaised) := by
  induction calls generalizing session with
  | nil => exact absurd rfl raised
  | cons call rest inductionHypothesis =>
    simp only [perform] at raised ⊢
    by_cases raises : fault session.made call
    · simp only [raises, if_true]
    · simp only [raises] at raised ⊢
      exact inductionHypothesis _ raised

theorem perform_without_fault (calls : List Call) : (session.perform Fault.none calls).1 = .ok () := by
  induction calls generalizing session with
  | nil => rfl
  | cons call rest inductionHypothesis => exact inductionHypothesis _

theorem drawAll_without_fault (layouts : List Figure.Layout) :
    ∀ outcome ∈ (session.drawAll Fault.none layouts).1, outcome = .ok () := by
  induction layouts generalizing session with
  | nil => simp [drawAll]
  | cons layout rest inductionHypothesis =>
    simp only [drawAll, List.forall_mem_cons]
    exact ⟨perform_without_fault session _, inductionHypothesis _⟩

theorem calling_drawAll? {layouts : List Figure.Layout}
    (drawn : ∀ outcome ∈ (session.drawAll fault layouts).1, outcome = .ok ()) :
    (calling fault).drawAll? session layouts = some (session.drawAll fault layouts).2 := by
  induction layouts generalizing session with
  | nil => rfl
  | cons layout rest inductionHypothesis =>
    simp only [drawAll, List.forall_mem_cons] at drawn
    obtain ⟨first, others⟩ := drawn
    have drew : (calling fault).draw session layout = (.ok (), (session.draw fault layout).2) := by
      rw [← first]
      rfl
    simp only [Backend.drawAll?, drew, inductionHypothesis _ others, drawAll]

end Session

end Drawing

namespace Report

namespace Trace

/-- The same trace with another backend. -/
def withBackend {σ τ : Type} (trace : Trace σ) (backend : τ) : Trace τ :=
  { trace with backend }

section

variable {σ : Type} (backend : Drawing.Backend σ) (limit : Option Nat)
  (trace : Trace (List Figure.Layout))

theorem performAll_of_stopped {τ : Type} (backend : Drawing.Backend τ) (trace : Trace τ) {step : Step}
    (stopped : (trace.perform backend limit step).1 ≠ .completed) (rest : List Step) :
    trace.performAll backend limit (step :: rest) = trace.perform backend limit step := by
  obtain ⟨next, performed, _⟩ | ⟨_, halted⟩ := performAll_cons backend limit trace step
  · rw [performed] at stopped
    exact absurd rfl stopped
  · exact halted rest

/-- A step asks a backend for nothing but to draw its layouts. -/
theorem perform_of_drawAll? {step : Step} {state next : σ}
    (drawn : backend.drawAll? state step.drawn = some next) :
    (trace.withBackend state).perform backend limit step =
      ((trace.perform (Drawing.recording []) limit step).1,
        (trace.perform (Drawing.recording []) limit step).2.withBackend next) := by
  cases step with
  | log event => cases drawn; rfl
  | print line =>
    cases drawn
    rcases emitted : emit limit trace.output line.text with ⟨outcome, output⟩
    cases outcome with
    | ok written => simp only [perform, withBackend, emitted]
    | error failure => simp only [perform, withBackend, emitted]
  | draw layout =>
    rcases drew : backend.draw state layout with ⟨outcome, middle⟩
    cases outcome with
    | error failure => simp [Drawing.Backend.drawAll?, Step.drawn, drew] at drawn
    | ok success =>
      simp only [Drawing.Backend.drawAll?, Step.drawn, drew, Option.some.injEq] at drawn
      subst drawn
      simp [perform, withBackend, drew, Drawing.recording]
  | fail failure => cases drawn; rfl
  | crash => cases drawn; rfl

/-- The layouts that a run keeps from a step on are those of the step and those of the steps behind
it, unless the run ends with the step. -/
theorem kept_cons {step : Step} {rest : List Step} {layouts : List Figure.Layout}
    (kept : (trace.performAll (Drawing.recording []) limit (step :: rest)).2.backend =
      trace.backend ++ layouts) :
    (∃ next others, trace.perform (Drawing.recording []) limit step = (.completed, next) ∧
        layouts = step.drawn ++ others ∧
        (next.performAll (Drawing.recording []) limit rest).2.backend = next.backend ++ others ∧
        next.backend = trace.backend ++ step.drawn) ∨
      layouts = [] ∧ step.drawn = [] ∧
        (trace.perform (Drawing.recording []) limit step).1 ≠ .completed := by
  obtain ⟨next, performed, onward⟩ | ⟨stopped, halted⟩ :=
    trace.performAll_cons (Drawing.recording []) limit step
  · left
    have nextBackend : next.backend = trace.backend ++ step.drawn := by
      simp [((perform_eq_completed_iff [] limit trace step next).mp performed).2]
    have front := (precedes_performAll [] limit next rest).drawn
    rw [← onward rest, kept, nextBackend, List.prefix_append_right_inj] at front
    obtain ⟨others, rfl⟩ := front
    refine ⟨next, others, performed, rfl, ?_, nextBackend⟩
    rw [← onward rest, kept, nextBackend, List.append_assoc]
  · right
    rw [halted] at kept
    cases step with
    | log event => exact absurd rfl stopped
    | print line =>
      refine ⟨?_, rfl, stopped⟩
      rcases emitted : emit limit trace.output line.text with ⟨outcome, output⟩
      cases outcome <;> simpa [perform, emitted] using kept
    | draw layout => simp [perform, Drawing.recording] at stopped
    | fail failure => exact ⟨by simpa [perform] using kept, rfl, stopped⟩
    | crash => exact ⟨by simpa [perform] using kept, rfl, stopped⟩

/-- A backend that draws what a run keeps does not change the run. -/
theorem performAll_of_drawAll? {steps : List Step} {state final : σ} {layouts : List Figure.Layout}
    (kept : (trace.performAll (Drawing.recording []) limit steps).2.backend = trace.backend ++ layouts)
    (drawn : backend.drawAll? state layouts = some final) :
    (trace.withBackend state).performAll backend limit steps =
      ((trace.performAll (Drawing.recording []) limit steps).1,
        (trace.performAll (Drawing.recording []) limit steps).2.withBackend final) := by
  induction steps generalizing trace state layouts with
  | nil =>
    obtain rfl : layouts = [] := by simpa [performAll] using kept
    cases drawn
    rfl
  | cons step rest inductionHypothesis =>
    obtain ⟨next, others, performed, rfl, keptOnward, _⟩ | ⟨rfl, undrawn, stopped⟩ :=
      kept_cons limit trace kept
    · rw [Drawing.Backend.drawAll?_append, Option.bind_eq_some_iff] at drawn
      obtain ⟨middle, first, others⟩ := drawn
      have same := perform_of_drawAll? backend limit trace first
      rw [performed] at same
      simp only [performAll, performed, same, inductionHypothesis next keptOnward others]
    · cases drawn
      have nothing : backend.drawAll? final step.drawn = some final := by
        rw [undrawn]
        rfl
      have same := perform_of_drawAll? backend limit trace nothing
      have stoppedToo : ((trace.withBackend final).perform backend limit step).1 ≠ .completed := by
        rw [same]
        exact stopped
      rw [performAll_of_stopped limit backend _ stoppedToo, performAll_of_stopped limit _ _ stopped, same]

/-- A run that keeps a layout has completed everything in front of it. -/
theorem split_at_kept {steps : List Step} {earlier later : List Figure.Layout}
    {layout : Figure.Layout}
    (kept : (trace.performAll (Drawing.recording []) limit steps).2.backend =
      trace.backend ++ (earlier ++ layout :: later)) :
    ∃ before after next, steps = before ++ .draw layout :: after ∧
      trace.performAll (Drawing.recording []) limit before = (.completed, next) ∧
      next.backend = trace.backend ++ earlier := by
  induction steps generalizing trace earlier with
  | nil => simp [performAll] at kept
  | cons step rest inductionHypothesis =>
    obtain ⟨next, others, performed, split, keptOnward, nextBackend⟩ | ⟨none, _⟩ :=
      kept_cons limit trace kept
    · have onward : ∀ rest, trace.performAll (Drawing.recording []) limit (step :: rest) =
          next.performAll (Drawing.recording []) limit rest :=
        fun rest => by simp only [performAll, performed]
      cases drawn : step.drawn with
      | nil =>
        rw [drawn, List.nil_append] at split
        rw [drawn, List.append_nil] at nextBackend
        rw [← split] at keptOnward
        obtain ⟨before, after, last, rfl, completed, lastBackend⟩ := inductionHypothesis next keptOnward
        exact ⟨step :: before, after, last, rfl, by rw [onward, completed],
          by rw [lastBackend, nextBackend]⟩
      | cons first more =>
        obtain ⟨rfl, rfl⟩ : more = [] ∧ step = .draw first := by
          cases step <;> simp_all [Step.drawn]
        cases earlier with
        | nil =>
          obtain ⟨rfl, _⟩ := List.cons.inj split
          exact ⟨[], rest, trace, rfl, rfl, (List.append_nil _).symm⟩
        | cons head earlier =>
          obtain ⟨rfl, rfl⟩ := List.cons.inj split
          obtain ⟨before, after, last, rfl, completed, lastBackend⟩ :=
            inductionHypothesis next keptOnward
          refine ⟨.draw head :: before, after, last, rfl, by rw [onward, completed], ?_⟩
          rw [lastBackend, nextBackend, List.append_assoc]
          rfl
    · simp at none

/-- A backend that does not draw a layout which is kept otherwise ends the run there. What has been
written, logged and announced until then does not depend on the backend. -/
theorem performAll_of_undrawn {steps : List Step} {earlier later : List Figure.Layout}
    {layout : Figure.Layout}
    (kept : (trace.performAll (Drawing.recording []) limit steps).2.backend =
      trace.backend ++ (earlier ++ layout :: later)) :
    ∃ reached : Trace (List Figure.Layout),
      ∀ {τ : Type} (backend : Drawing.Backend τ) (state middle last : τ) (failure : Failure),
        backend.drawAll? state earlier = some middle →
        backend.draw middle layout = (.error failure, last) →
        (trace.withBackend state).performAll backend limit steps =
          (.failed (failure.within (.drawFigure layout.output)), reached.withBackend last) := by
  obtain ⟨before, after, reached, rfl, completed, keptBefore⟩ := split_at_kept limit trace kept
  refine ⟨reached, fun backend state middle last failure drawn undrawn => ?_⟩
  have kept : (trace.performAll (Drawing.recording []) limit before).2.backend =
      trace.backend ++ earlier := by
    rw [completed, keptBefore]
  have same := performAll_of_drawAll? backend limit trace kept drawn
  rw [completed] at same
  rw [performAll_append, same]
  simp only [performAll, perform, withBackend, undrawn]

end

end Trace

/-! ## Whole runs -/

theorem outputs_of_images_sublist (tree : FileTree) (config : Config) :
    ((config.sections.flatMap (Section.images tree)).map Image.output).Sublist config.outputs := by
  rw [Config.outputs, List.map_flatMap]
  induction config.sections with
  | nil => exact List.Sublist.refl _
  | cons part rest inductionHypothesis =>
    refine List.Sublist.append ?_ inductionHypothesis
    cases live : part.isLive tree with
    | true =>
      simp only [Section.images, live, if_true, List.map_map]
      exact List.Sublist.refl _
    | false =>
      simp only [Section.images, live]
      exact List.nil_sublist _

/-- No two layouts of a run go to the same output. -/
theorem drawn_outputs_nodup (refused : List Path) (limit : Option Nat) (tree : FileTree)
    (config : Config) :
    ((run (Drawing.recording refused) limit [] tree config).2.backend.map
      Figure.Layout.output).Nodup := by
  cases checked : config.check with
  | error failure =>
    simp [run, script_of_error checked, Trace.performAll, Trace.perform, Trace.start]
  | ok accepted =>
    have apart := ((config.check_eq_ok_iff).mp checked).outputs
    have distinct : config.outputs.Nodup := apart.imp fun differs same => differs (by rw [same])
    obtain ⟨images, _, drawnPrefix, _, account⟩ :=
      (Tells.ofConfig tree config).account refused limit (Account.start tree)
    rw [List.nil_append] at account
    have outputs := Image.outputs_of_laidOut account.drawn
    rw [run, outputs]
    exact distinct.sublist
      ((drawnPrefix.sublist.map Image.output).trans (outputs_of_images_sublist tree config))

/-- Drawing by calls refines recording, if no image that is saved disturbs a section. Without faults the
two runs have the same ending, lines and events, and the calls are those of drawing the recorded layouts
one after the other. If a call raises while one of these layouts is drawn, the run ends there, with the
lines and events of the run whose recording refuses just that output, and no call is made for a later
layout. -/
theorem calling_refines_recording (saving : Saving) (limit : Option Nat) (tree : FileTree)
    (config : Config) (undisturbed : Undisturbed saving tree config.sections) :
    let free := run (Drawing.recording []) limit [] tree config
    let called (fault : Drawing.Fault) :=
      runSaving saving (Drawing.calling fault) limit Drawing.Session.fresh tree config
    let drawn (fault : Drawing.Fault) := Drawing.Session.fresh.drawAll fault
    (called Drawing.Fault.none =
        (free.1, free.2.withBackend (drawn Drawing.Fault.none free.2.backend).2)) ∧
      ∀ fault earlier layout later, free.2.backend = earlier ++ layout :: later →
        (∀ outcome ∈ (drawn fault earlier).1, outcome = .ok ()) →
        ((drawn fault earlier).2.draw fault layout).1 ≠ .ok () →
        let refused := run (Drawing.recording [layout.output]) limit [] tree config
        (called fault).1 = .failed ⟨[.drawFigure layout.output], .drawingRaised⟩ ∧
          refused.1 = .failed ⟨[.drawFigure layout.output], .drawingRefused⟩ ∧
          (called fault).2 = refused.2.withBackend (drawn fault (earlier ++ [layout])).2 ∧
          refused.2.backend = earlier := by
  intro free called drawn
  have unsaved (fault : Drawing.Fault) : called fault =
      run (Drawing.calling fault) limit Drawing.Session.fresh tree config :=
    runSaving_of_undisturbed _ limit _ undisturbed
  refine ⟨?_, ?_⟩
  · have all := Drawing.Session.calling_drawAll? Drawing.Fault.none Drawing.Session.fresh
      (Drawing.Session.drawAll_without_fault Drawing.Session.fresh free.2.backend)
    rw [unsaved]
    exact Trace.performAll_of_drawAll? _ limit (Trace.start []) rfl all
  · intro fault earlier layout later kept quiet raised refused
    obtain ⟨reached, ended⟩ := Trace.performAll_of_undrawn limit (Trace.start []) kept
    have failed : (Drawing.calling fault).draw (drawn fault earlier).2 layout =
        (.error (Failure.ofCause .drawingRaised), (drawn fault (earlier ++ [layout])).2) := by
      have split : drawn fault (earlier ++ [layout]) = _ :=
        Drawing.Session.fresh.drawAll_append fault earlier [layout]
      rw [split]
      exact Prod.ext (Drawing.Session.perform_eq_raised fault _ raised) rfl
    have calls : called fault = _ := (unsaved fault).trans <|
      ended (Drawing.calling fault) Drawing.Session.fresh _ _ _
        (Drawing.Session.calling_drawAll? fault Drawing.Session.fresh quiet) failed
    -- The refused output is that of no earlier layout.
    have distinct := drawn_outputs_nodup [] limit tree config
    rw [kept, List.map_append, List.map_cons, List.nodup_append] at distinct
    have accepted : ∀ other ∈ earlier, other.output ∉ [layout.output] := by
      intro other member
      rw [List.mem_singleton]
      exact distinct.2.2 _ (List.mem_map_of_mem member) _ List.mem_cons_self
    have refusal : (Drawing.recording [layout.output]).draw earlier layout =
        (.error (Failure.ofCause .drawingRefused), earlier) := by
      simp [Drawing.recording]
    have records : refused = _ := ended (Drawing.recording [layout.output]) [] earlier earlier _
      (Drawing.recording_drawAll? accepted []) refusal
    rw [calls, records]
    exact ⟨rfl, rfl, rfl, rfl⟩

/-- The layout of the one bar that `barTo` draws to an output. -/
def barLayout (output : Path) : Figure.Layout where
  output := output
  resolution := none
  size := (6, 5)
  charts :=
    [{ title := "Load", xLabel := none, yLabel := "", yMax := none, ticks := [0],
       tickLabels := ["Uniform"], series := [.bars "Throughput" [0] [326.5] 0.8 ["#40826D"]],
       valueLabels := [⟨0, 326.5, "326"⟩], legend := false }]

/-- The figure that `barTo` draws to an output. -/
def barFigures (output : Path) : List Figure :=
  (barTo [output]).sections.flatMap Section.figures

/-- A report of two sections, the second of which is drawn from a file. -/
def twoBars (path : Path) : Config :=
  ⟨[⟨[⟨"Uniform", .embedded ⟨some 326.5, none, none⟩⟩], barFigures ⟨"a.png"⟩⟩,
    ⟨[⟨"Uniform", .file path⟩], barFigures ⟨"b.png"⟩⟩]⟩

/-- The bytes of an image: a signature, and what is behind it. -/
def imageBytes (pixels : List UInt8) : List UInt8 :=
  [0x89, 0x50, 0x4e, 0x47, 0x0d, 0x0a, 0x1a, 0x0a] ++ pixels

def uniformFile : FileTree :=
  .holding [("uniform.json", .file "\x7b\"throughput_tps\":326.5\x7d".toUTF8.data.toList)]

/-- Of two images, the second cannot be saved. -/
theorem unsaved_bar_refines_refused_bar :
    let images := Saving.image fun _ => imageBytes []
    let fault := Drawing.Fault.nth "savefig" 1
    let config := twoBars ⟨"uniform.json"⟩
    let called := runSaving images (Drawing.calling fault) none Drawing.Session.fresh uniformFile config
    let refused := run (Drawing.recording [⟨"b.png"⟩]) none [] uniformFile config
    Undisturbed images uniformFile config.sections ∧
      called.1 = .failed ⟨[.drawFigure ⟨"b.png"⟩], .drawingRaised⟩ ∧
      called.2 = refused.2.withBackend
        (Drawing.Session.fresh.drawAll fault [barLayout ⟨"a.png"⟩, barLayout ⟨"b.png"⟩]).2 ∧
      called.2.output = "Generated a.png\n".toUTF8.data.toList ∧
      (called.2.backend.made.countP fun call => call.function = "savefig") = 2 := by
  intro images fault config called refused
  have undisturbed : Undisturbed images uniformFile config.sections :=
    undisturbed_of_apart _ uniformFile (by decide +kernel)
  have kept : (run (Drawing.recording []) none [] uniformFile config).2.backend =
      [barLayout ⟨"a.png"⟩] ++ barLayout ⟨"b.png"⟩ :: [] := by
    decide +kernel
  obtain ⟨_, stops⟩ := calling_refines_recording images none uniformFile config undisturbed
  obtain ⟨ending, _, trace, _⟩ := stops fault _ _ _ kept (by decide +kernel) (by decide +kernel)
  exact ⟨undisturbed, ending, trace, by decide +kernel, by decide +kernel⟩

/-- An image that is saved where a later section looks for results ends the report there, whatever the
image. The recording of the same report finds no such file and is completed. -/
theorem saved_image_may_end_report :
    let config := twoBars ⟨"a.png"⟩
    let free := run (Drawing.recording []) none [] FileTree.empty config
    let called (pixels : List UInt8) := runSaving (.image fun _ => imageBytes pixels)
      (Drawing.calling Drawing.Fault.none) none Drawing.Session.fresh FileTree.empty config
    config.check = .ok () ∧ free.1 = .completed ∧
      free.2.output = ("Generated a.png\n" ++
        "Warning: a.png not found. Skipping.\nNo data found.\n").toUTF8.data.toList ∧
      ∀ pixels,
        (called pixels).1 = .failed ⟨[.loadScenarios, .parseResults ⟨"a.png"⟩], .content .malformed⟩ ∧
          (called pixels).2.output = "Generated a.png\n".toUTF8.data.toList := by
  intro config free called
  have accepted : Config.check config = .ok () := by decide +kernel
  refine ⟨accepted, by decide +kernel, by decide +kernel, fun pixels => ?_⟩
  -- The first section alone is disturbed by nothing, and its image is what the second one reads.
  let first : Section := ⟨[⟨"Uniform", .embedded ⟨some 326.5, none, none⟩⟩], barFigures ⟨"a.png"⟩⟩
  let saving := Saving.image fun _ => imageBytes pixels
  have image : saving.after FileTree.empty (sectionsScript saving FileTree.empty [first]) =
      FileTree.empty.write ⟨"a.png"⟩ (imageBytes pixels) := by
    have drawn : (sectionScript FileTree.empty first).flatMap Step.drawn = [barLayout ⟨"a.png"⟩] := by
      decide +kernel
    rw [sectionsScript_singleton, Saving.after, drawn]
    rfl
  have found : (saving.after FileTree.empty (sectionsScript saving FileTree.empty [first])).find
      ⟨"a.png"⟩ = .ok (.file (imageBytes pixels)) := by
    have split : FileTree.steps ⟨"a.png"⟩ = [] ++ ["a.png"] := by decide +kernel
    have missing : FileTree.empty.find ⟨"a.png"⟩ = .error .notFound := by rfl
    rw [image]
    exact FileTree.find_write split (.here _) (.inr missing) (by decide +kernel) _
  have malformed : Results.ofBytes (imageBytes pixels) = .error .malformed :=
    Results.ofBytes_of_refused (by decide +kernel) _
  have alone : runSaving saving (Drawing.calling Drawing.Fault.none) none Drawing.Session.fresh
      FileTree.empty ⟨[first]⟩ =
        run (Drawing.calling Drawing.Fault.none) none Drawing.Session.fresh FileTree.empty ⟨[first]⟩ :=
    runSaving_of_undisturbed _ none _ (undisturbed_of_apart _ _ (List.pairwise_singleton _ _))
  have completed : (run (Drawing.calling Drawing.Fault.none) none Drawing.Session.fresh FileTree.empty
    ⟨[first]⟩).1 = .completed := by decide +kernel
  have output : (run (Drawing.calling Drawing.Fault.none) none Drawing.Session.fresh FileTree.empty
    ⟨[first]⟩).2.output = "Generated a.png\n".toUTF8.data.toList := by decide +kernel
  rcases ran : run (Drawing.calling Drawing.Fault.none) none Drawing.Session.fresh FileTree.empty
    ⟨[first]⟩ with ⟨ending, trace⟩
  rw [ran] at alone completed output
  obtain rfl : ending = .completed := completed
  have split : config =
      ⟨[first] ++ ⟨⟨"Uniform", .file ⟨"a.png"⟩⟩ :: [], barFigures ⟨"b.png"⟩⟩ :: []⟩ := rfl
  rw [split] at accepted
  have ended := runSaving_of_malformed accepted alone found malformed
  rw [← split] at ended
  have whole : called pixels = _ := ended
  rw [whole]
  exact ⟨rfl, output⟩

end Report

end LoadReport
