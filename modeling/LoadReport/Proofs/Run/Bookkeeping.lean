import LoadReport.Proofs.Layout.Depiction
import LoadReport.Proofs.Run.Overwriting

/-!
# Drawing, logging and announcing agree

A run draws an image, logs it and announces it in three steps, and may end between any two of them.
`Tells` says what a script is made of; on every script that tells of images and lines, a run keeps its
account: at its end, wherever that is, the layouts drawn, the events logged and the lines on the
console speak of the same images, but for a last line that did not fit.
-/

namespace LoadReport

/-- Whether an event says that a figure has been drawn. -/
def Event.isDrawing : Event → Bool
  | .figureDrawn _ _ _ => true
  | _ => false

namespace Report

/-- A figure of a report with the section that it is drawn from. -/
structure Image where
  part : Section
  figure : Figure

namespace Image

variable (tree : FileTree) (image : Image)

/-- A layout shows an image if it is made from what is found for the section. -/
def LaidOut (layout : Figure.Layout) : Prop :=
  image.figure.layout? ⟨image.part.found tree⟩ = some layout

/-- The event of drawing an image: its output, the scenarios found in its section, its charts. -/
def event : Event :=
  .figureDrawn image.figure.output (image.part.found tree).length image.figure.charts.length

def output : Path :=
  image.figure.output

variable {tree image}

theorem LaidOut.output {layout : Figure.Layout} (laidOut : image.LaidOut tree layout) :
    layout.output = image.output := by
  obtain ⟨charts, _, rfl⟩ := (Figure.layout?_eq_some_iff _ _ _).mp laidOut
  rfl

theorem LaidOut.charts {layout : Figure.Layout} (laidOut : image.LaidOut tree layout) :
    layout.charts.length = image.figure.charts.length := by
  obtain ⟨charts, drawn, rfl⟩ := (Figure.layout?_eq_some_iff _ _ _).mp laidOut
  exact drawn.length_eq.symm

theorem LaidOut.script {layout : Figure.Layout} (laidOut : image.LaidOut tree layout) :
    figureScript ⟨image.part.found tree⟩ image.figure =
      [.draw layout, .log (image.event tree), .print (.generated image.output)] := by
  rw [figureScript_eq laidOut, laidOut.charts]
  rfl

theorem outputs_of_laidOut {images : List Image} {layouts : List Figure.Layout}
    (laidOut : List.Forall₂ (LaidOut tree) images layouts) :
    layouts.map Figure.Layout.output = images.map Image.output := by
  induction laidOut with
  | nil => rfl
  | cons head _ inductionHypothesis =>
    rw [List.map_cons, List.map_cons, head.output, inductionHypothesis]

end Image

end Report

/-- The images that are to be drawn for a section: none, if nothing is found for it. -/
def Section.images (tree : FileTree) (part : Section) : List Report.Image :=
  if part.isLive tree then part.figures.map (.mk part) else []

theorem Scenario.load_logs_no_drawing (tree : FileTree) (scenario : Scenario) :
    ∀ event ∈ (scenario.load tree).events, event.isDrawing = false := by
  unfold Scenario.load
  split
  · simp
  · split
    · split
      · simp
      · simp [Event.isDrawing]
    · simp [Event.isDrawing]

theorem Scenario.loadAll_logs_no_drawing (tree : FileTree) (scenarios : List Scenario) :
    ∀ event ∈ (Scenario.loadAll tree scenarios).events, event.isDrawing = false := by
  induction scenarios with
  | nil => simp [loadAll]
  | cons scenario rest inductionHypothesis =>
    have first := load_logs_no_drawing tree scenario
    rcases loading : scenario.load tree with ⟨events, outcome⟩
    rw [loading] at first
    cases outcome with
    | error failure => simpa [loadAll, loading] using first
    | ok finding =>
      simp only [loadAll, loading, List.forall_mem_append]
      exact ⟨first, inductionHypothesis⟩

namespace Report

/-! ## What scripts tell -/

/-- A script tells of images and lines in order. Behind a step that no run gets past, it may tell of
anything. -/
inductive Tells (tree : FileTree) : List Image → List Line → List Step → Prop
  | nothing : Tells tree [] [] []
  | logging {images lines steps} (event : Event) (other : event.isDrawing = false)
      (rest : Tells tree images lines steps) : Tells tree images lines (.log event :: steps)
  | noting {images lines steps} (line : Line) (other : line.output? = none)
      (rest : Tells tree images lines steps) : Tells tree images (line :: lines) (.print line :: steps)
  | drawing {images lines steps} (image : Image) (layout : Figure.Layout)
      (laidOut : image.LaidOut tree layout) (rest : Tells tree images lines steps) :
      Tells tree (image :: images) (.generated image.output :: lines)
        (.draw layout :: .log (image.event tree) :: .print (.generated image.output) :: steps)
  | ending {images lines steps} (step : Step) (ends : step.ends = true) :
      Tells tree images lines (step :: steps)

namespace Tells

variable {tree : FileTree} {images moreImages : List Image} {lines moreLines : List Line}
  {steps more : List Step}

theorem append (first : Tells tree images lines steps) (second : Tells tree moreImages moreLines more) :
    Tells tree (images ++ moreImages) (lines ++ moreLines) (steps ++ more) := by
  induction first with
  | nothing => exact second
  | logging event other _ inductionHypothesis => exact .logging event other inductionHypothesis
  | noting line other _ inductionHypothesis => exact .noting line other inductionHypothesis
  | drawing image layout laidOut _ inductionHypothesis =>
    exact .drawing image layout laidOut inductionHypothesis
  | ending step ends => exact .ending step ends

theorem logs {events : List Event} (others : ∀ event ∈ events, event.isDrawing = false)
    (rest : Tells tree images lines steps) :
    Tells tree images lines (events.map .log ++ steps) := by
  induction events with
  | nil => exact rest
  | cons event events inductionHypothesis =>
    rw [List.forall_mem_cons] at others
    exact .logging event others.1 (inductionHypothesis others.2)

theorem warnings (paths : List Path) (rest : Tells tree images lines steps) :
    Tells tree images (paths.map .skipped ++ lines)
      (paths.map (fun path => .print (.skipped path)) ++ steps) := by
  induction paths with
  | nil => exact rest
  | cons path paths inductionHypothesis => exact .noting (.skipped path) rfl inductionHypothesis

theorem figures (tree : FileTree) (part : Section) (drawn : List Figure) :
    Tells tree (drawn.map (.mk part)) (drawn.map fun figure => .generated figure.output)
      (drawn.flatMap (figureScript ⟨part.found tree⟩)) := by
  induction drawn with
  | nil => exact .nothing
  | cons figure rest inductionHypothesis =>
    rw [List.flatMap_cons]
    cases laidOut : figure.layout? ⟨part.found tree⟩ with
    | none =>
      rw [figureScript_eq_crash laidOut]
      exact .ending .crash rfl
    | some layout =>
      have shown : Image.LaidOut tree ⟨part, figure⟩ layout := laidOut
      rw [shown.script]
      exact .drawing ⟨part, figure⟩ layout shown inductionHypothesis

theorem ofSection (tree : FileTree) (part : Section) :
    Tells tree (part.images tree) (part.lines tree) (sectionScript tree part) := by
  have quiet := Scenario.loadAll_logs_no_drawing tree part.scenarios
  obtain ⟨failure, script⟩ | ⟨_, script⟩ := sectionScript_cases tree part.scenarios
  · rw [script part.figures]
    exact logs quiet (.ending _ rfl)
  · rw [script part.figures, loadedSteps]
    refine logs quiet (warnings _ ?_)
    cases live : part.isLive tree with
    | true =>
      simp only [Section.images, live, if_true]
      exact figures tree part part.figures
    | false =>
      simp only [Section.images, live]
      exact .noting .noData rfl .nothing

theorem ofSections (tree : FileTree) (sections : List Section) :
    Tells tree (sections.flatMap (Section.images tree)) (sections.flatMap (Section.lines tree))
      (sections.flatMap (sectionScript tree)) := by
  induction sections with
  | nil => exact .nothing
  | cons part rest inductionHypothesis => exact (ofSection tree part).append inductionHypothesis

theorem ofConfig (tree : FileTree) (config : Config) :
    Tells tree (config.sections.flatMap (Section.images tree))
      (config.sections.flatMap (Section.lines tree)) (script tree config) := by
  cases checked : config.check with
  | error failure =>
    rw [script_of_error checked]
    exact .ending _ rfl
  | ok accepted =>
    rw [script_of_ok checked]
    exact ofSections tree config.sections

end Tells

/-! ## What runs keep -/

/-- The console shows lines in full, unless the run has ended because the last of them did not fit. -/
def Shows (lines : List Line) (ended : Ending × Trace (List Figure.Layout)) : Prop :=
  ended.2.output = lines.flatMap Line.bytes ∨
    ended.1 = .failed (Failure.ofCause (.file .brokenPipe)) ∧
      ∃ earlier last room, lines = earlier ++ [last] ∧ room < last.bytes.length ∧
        ended.2.output = earlier.flatMap Line.bytes ++ last.bytes.take room

/-- What has been drawn, logged, announced and, if the run is completed, given back are the same
images. -/
structure Account (tree : FileTree) (images : List Image) (lines : List Line)
    (ended : Ending × Trace (List Figure.Layout)) : Prop where
  drawn : List.Forall₂ (Image.LaidOut tree) images ended.2.backend
  logged : ended.2.events.filter Event.isDrawing = images.map (Image.event tree)
  announced : lines.filterMap Line.output? = images.map Image.output
  shown : Shows lines ended
  returned : ended.1 = .completed → ended.2.generated = images.map Image.output

namespace Account

variable {tree : FileTree} {images : List Image} {lines : List Line}
  {trace : Trace (List Figure.Layout)}

theorem output_of_completed (account : Account tree images lines (.completed, trace)) :
    trace.output = lines.flatMap Line.bytes := by
  obtain shown | ⟨failed, _⟩ := account.shown
  · exact shown
  · cases failed

theorem generated_of_completed (account : Account tree images lines (.completed, trace)) :
    trace.generated = images.map Image.output :=
  account.returned rfl

theorem start (tree : FileTree) : Account tree [] [] (.completed, Trace.start []) :=
  ⟨.nil, rfl, rfl, .inl rfl, fun _ => rfl⟩

/-- Ending without leaving anything more behind does not change the account. -/
theorem ended (account : Account tree images lines (.completed, trace)) {ending : Ending}
    (stopped : ending ≠ .completed) : Account tree images lines (ending, trace) :=
  ⟨account.drawn, account.logged, account.announced, .inl account.output_of_completed,
    fun completed => absurd completed stopped⟩

end Account

section

variable {tree : FileTree} (refused : List Path) (limit : Option Nat)

/-- A line is written in full, or it is the last of a run that ends with it. -/
theorem shows_print {said : List Line} {trace : Trace (List Figure.Layout)}
    (shown : trace.output = said.flatMap Line.bytes) (line : Line) :
    Shows (said ++ [line]) (trace.perform (Drawing.recording refused) limit (.print line)) := by
  by_cases fits : line.Fits limit trace.output.length
  · left
    simp only [Trace.perform, Trace.emit_of_fits limit fits]
    simp [shown]
  · right
    obtain ⟨room, cut, emitted⟩ := Trace.emit_of_not_fits limit fits
    simp only [Trace.perform, emitted]
    exact ⟨trivial, said, line, room, rfl, cut, by rw [shown]⟩

/-- A line is written behind what a trace says, once nothing but the line is missing for an account of
the images. -/
theorem Account.print {images : List Image} {said : List Line} {trace : Trace (List Figure.Layout)}
    {line : Line} (drawn : List.Forall₂ (Image.LaidOut tree) images trace.backend)
    (logged : trace.events.filter Event.isDrawing = images.map (Image.event tree))
    (shown : trace.output = said.flatMap Line.bytes)
    (announced : said.filterMap Line.output? ++ line.output?.toList = images.map Image.output)
    (returned : trace.generated ++ line.output?.toList = images.map Image.output) :
    Account tree images (said ++ [line])
      (trace.perform (Drawing.recording refused) limit (.print line)) := by
  have said : (said ++ [line]).filterMap Line.output? = images.map Image.output := by
    rw [← announced, List.filterMap_append, List.filterMap_cons]
    cases line.output? <;> rfl
  have shows := shows_print refused limit shown line
  rcases emitted : Trace.emit limit trace.output line.text with ⟨outcome, output⟩
  cases outcome with
  | ok written =>
    simp only [Trace.perform, emitted] at shows ⊢
    exact ⟨drawn, logged, said, shows, fun _ => returned⟩
  | error failure =>
    simp only [Trace.perform, emitted] at shows ⊢
    exact ⟨drawn, logged, said, shows, fun completed => by cases completed⟩

/-- A run that tells of images and lines behind others gets through some of them, in order, and keeps
its account up to there. -/
def Extends (tree : FileTree) (drawn images : List Image) (said lines : List Line)
    (ended : Ending × Trace (List Figure.Layout)) : Prop :=
  ∃ next spoken, next <+: images ∧ spoken <+: lines ∧
    Account tree (drawn ++ next) (said ++ spoken) ended

namespace Extends

variable {drawn images : List Image} {said lines : List Line}
  {ended : Ending × Trace (List Figure.Layout)}

theorem stop (account : Account tree drawn said ended) :
    Extends tree drawn images said lines ended :=
  ⟨[], [], List.nil_prefix, List.nil_prefix, by simpa using account⟩

theorem line {line : Line} (later : Extends tree drawn images (said ++ [line]) lines ended) :
    Extends tree drawn images said (line :: lines) ended := by
  obtain ⟨next, spoken, nextPrefix, spokenPrefix, account⟩ := later
  refine ⟨next, line :: spoken, nextPrefix, ?_, by simpa using account⟩
  exact (List.prefix_cons_inj line).mpr spokenPrefix

theorem image {image : Image} (later : Extends tree (drawn ++ [image]) images said lines ended) :
    Extends tree drawn (image :: images) said lines ended := by
  obtain ⟨next, spoken, nextPrefix, spokenPrefix, account⟩ := later
  refine ⟨image :: next, spoken, ?_, spokenPrefix, by simpa using account⟩
  exact (List.prefix_cons_inj image).mpr nextPrefix

/-- The line that is printed first counts even where the run ends with it. -/
theorem print {refused : List Path} {limit : Option Nat} {trace : Trace (List Figure.Layout)}
    {line : Line} {steps : List Step}
    (printed : Account tree drawn (said ++ [line])
      (trace.perform (Drawing.recording refused) limit (.print line)))
    (later : ∀ next, Account tree drawn (said ++ [line]) (.completed, next) →
      Extends tree drawn images (said ++ [line]) lines
        (next.performAll (Drawing.recording refused) limit steps)) :
    Extends tree drawn images said (line :: lines)
      (trace.performAll (Drawing.recording refused) limit (.print line :: steps)) := by
  obtain ⟨next, performed, onward⟩ | ⟨_, halted⟩ :=
    trace.performAll_cons (Drawing.recording refused) limit (.print line)
  · rw [performed] at printed
    rw [onward]
    exact .line (later next printed)
  · rw [halted]
    exact .line (.stop printed)

end Extends

/-- On a script that tells of images and lines, a run keeps its account to whatever end. -/
theorem Tells.account {images drawn : List Image} {lines said : List Line} {steps : List Step}
    (tells : Tells tree images lines steps) {trace : Trace (List Figure.Layout)}
    (account : Account tree drawn said (.completed, trace)) :
    Extends tree drawn images said lines
      (trace.performAll (Drawing.recording refused) limit steps) := by
  induction tells generalizing trace drawn said with
  | nothing => exact .stop account
  | logging event other rest inductionHypothesis =>
    refine inductionHypothesis ⟨account.drawn, ?_, account.announced, account.shown, account.returned⟩
    simp [List.filter_append, account.logged, other]
  | noting line other rest inductionHypothesis =>
    have printed : Account tree drawn (said ++ [line])
        (trace.perform (Drawing.recording refused) limit (.print line)) :=
      .print refused limit account.drawn account.logged account.output_of_completed
        (by simp [other, account.announced]) (by simp [other, account.generated_of_completed])
    exact .print printed fun _ => inductionHypothesis
  | drawing image layout laidOut rest inductionHypothesis =>
    by_cases refusal : layout.output ∈ refused
    · simp only [Trace.performAll, Trace.perform, Drawing.recording, refusal, if_true]
      exact .stop (account.ended fun equal => by cases equal)
    · -- Drawing and logging succeed, so that only the line is left to fail.
      let logged : Trace (List Figure.Layout) :=
        { trace with
          events := trace.events ++ [image.event tree]
          backend := trace.backend ++ [layout] }
      have printed : Account tree (drawn ++ [image]) (said ++ [.generated image.output])
          (logged.perform (Drawing.recording refused) limit (.print (.generated image.output))) :=
        .print refused limit (List.rel_append account.drawn (.cons laidOut .nil))
          (by simp [logged, account.logged, Image.event, Event.isDrawing])
          account.output_of_completed
          (by simp [account.announced, Line.output?])
          (by simp [logged, account.generated_of_completed, Line.output?])
      have drawing : ∀ steps, trace.performAll (Drawing.recording refused) limit
          (.draw layout :: .log (image.event tree) :: steps) =
            logged.performAll (Drawing.recording refused) limit steps := by
        simp [Trace.performAll, Trace.perform, Drawing.recording, refusal, logged]
      rw [drawing]
      exact .image (.print printed fun _ => inductionHypothesis)
  | ending step ends =>
    cases step with
    | fail failure => exact .stop (account.ended fun equal => by cases equal)
    | crash => exact .stop (account.ended fun equal => by cases equal)
    | _ => cases ends

end

end Report

end LoadReport
