import LoadReport.Proofs.Drawing.Elements
import LoadReport.Proofs.Drawing.Session
import LoadReport.Proofs.Outcomes

/-!
# What drawings take in hand and leave behind

Every drawing selects the renderer before it touches plotting, whatever has become of the drawings
before it. The figure that it opens is closed by its last call, so that the figure stays open if any
call between the two raises.

* `plan_eq`, `plan_selects` — the calls for a layout, parted at the figure and at the renderer.
* `Session.Sound.figures` — a session knows how many figures have been opened.
* `closed_iff_undisturbed` — what keeps a drawing from closing its figure.
-/

namespace LoadReport.Drawing

open Outcomes

/-! ## The calls for a layout -/

/-- A call that neither opens nor closes a figure. -/
def Call.LeavesFigures (call : Call) : Prop :=
  call.function ≠ "figure" ∧ call.function ≠ "close"

theorem leavesFigures_of_mem_chartsCalls {columns axes index : Nat} {charts : List Chart.Layout}
    {call : Call} (member : call ∈ chartsCalls columns axes index charts) : call.LeavesFigures := by
  obtain ⟨position, rfl⟩ | ⟨number, onAxes⟩ := target_of_mem_chartsCalls member
  · simp [Call.LeavesFigures, Call.function]
  · cases call <;> simp_all [Call.LeavesFigures, Call.function, Call.target]

theorem eq_of_mem_preparation {progress : Progress} {call : Call}
    (member : call ∈ progress.preparation) :
    call = .importLibrary ∨ call = .useRenderer ∨ call = .importPlotting := by
  simp only [Progress.preparation, List.mem_append, List.mem_singleton] at member
  obtain (loading | rfl) | loading := member
  · split at loading <;> simp_all
  · exact .inr (.inl rfl)
  · split at loading <;> simp_all

theorem leavesFigures_of_mem_preparation {progress : Progress} {call : Call}
    (member : call ∈ progress.preparation) : call.LeavesFigures := by
  obtain rfl | rfl | rfl := eq_of_mem_preparation member
  · simp [Call.LeavesFigures, Call.function]
  · simp [Call.LeavesFigures, Call.function]
  · simp [Call.LeavesFigures, Call.function]

/-- A drawing opens its figure behind the preparation and closes it at its end. -/
theorem plan_eq (progress : Progress) (layout : Figure.Layout) :
    ∃ body, progress.plan layout =
        progress.preparation ++ .openFigure layout.size :: (body ++ [.closeFigure progress.figures]) ∧
      ∀ call ∈ body, call.LeavesFigures := by
  refine ⟨chartsCalls layout.charts.length progress.axes 0 layout.charts ++
    [.arrange, .save layout.output layout.resolution], ?_, ?_⟩
  · simp [Progress.plan]
  · intro call member
    simp only [List.mem_append, List.mem_cons, List.not_mem_nil, or_false] at member
    obtain ofCharts | rfl | rfl := member
    · exact leavesFigures_of_mem_chartsCalls ofCharts
    · simp [Call.LeavesFigures, Call.function]
    · simp [Call.LeavesFigures, Call.function]

/-! ## The renderer -/

/-- A call that touches plotting: it loads plotting, or is made on it or on axes. -/
def Call.TouchesPlotting (call : Call) : Prop :=
  call.function = "import matplotlib.pyplot" ∨ call.target = .plotting ∨
    ∃ number, call.target = .axes number

/-- A call that selects the renderer that only writes files. -/
structure Call.SelectsRenderer (call : Call) : Prop where
  target : call.target = .library
  function : call.function = "use"
  positional : call.positional = [.text "Agg"]
  keywords : call.keywords = []

theorem useRenderer_selects : Call.useRenderer.SelectsRenderer :=
  ⟨rfl, rfl, rfl, rfl⟩

/-- A drawing begins by selecting the renderer, for which the library has to be loaded. -/
theorem plan_selects (progress : Progress) (layout : Figure.Layout) :
    ∃ loading rest, progress.plan layout = loading ++ .useRenderer :: rest ∧
      (loading = [] ∨ loading = [.importLibrary]) := by
  refine ⟨if progress.library then [] else [.importLibrary],
    (if progress.plotting then [] else [.importPlotting]) ++ .openFigure layout.size ::
      (chartsCalls layout.charts.length progress.axes 0 layout.charts ++
        [.arrange, .save layout.output layout.resolution, .closeFigure progress.figures]), ?_, ?_⟩
  · simp [Progress.plan, Progress.preparation]
  · cases progress.library
    · exact .inr rfl
    · exact .inl rfl

/-- What a drawing does to plotting comes behind the selection of the renderer. -/
theorem selected_before {progress : Progress} {layout : Figure.Layout} {before after : List Call}
    {call : Call} (split : progress.plan layout = before ++ call :: after)
    (touches : call.TouchesPlotting) : ∃ front back, before = front ++ .useRenderer :: back := by
  obtain ⟨loading, rest, planned, onlyLoading⟩ := plan_selects progress layout
  have absent : call ∉ loading := by
    rintro member
    obtain rfl | rfl := onlyLoading
    · cases member
    · obtain rfl := List.mem_singleton.mp member
      simp [Call.TouchesPlotting, Call.function, Call.target] at touches
  rw [planned] at split
  obtain ⟨inner, rfl, others⟩ := append_eq_append_cons_of_not_mem split absent
  cases inner with
  | nil =>
    obtain ⟨rfl, _⟩ := List.cons.inj others
    simp [Call.TouchesPlotting, Call.function, Call.target] at touches
  | cons head back =>
    obtain ⟨rfl, _⟩ := List.cons.inj others
    exact ⟨loading, back, rfl⟩

/-- A drawing selects the renderer unless it fails to load the library. -/
theorem selects_or_fails {fault : Fault} {session : Session} {layout : Figure.Layout}
    {calls : List Call} {ended : Except Failure Unit × Session}
    (drawn : session.Makes fault (session.progress.plan layout) calls ended) :
    .useRenderer ∈ calls ∨ calls = [.importLibrary] ∧ fault session.made .importLibrary = true := by
  obtain ⟨loading, rest, planned, onlyLoading⟩ := plan_selects session.progress layout
  by_cases selects : .useRenderer ∈ calls
  · exact .inl selects
  · obtain ⟨others, split⟩ := drawn.first
    rw [planned] at split
    -- The calls end while the library is loaded.
    obtain ⟨inner, loadingEqual, _⟩ := append_eq_append_cons_of_not_mem split selects
    obtain rfl | ⟨before, last, rfl, raises⟩ := drawn.stopped
    · simp [planned] at selects
    · obtain rfl | rfl := onlyLoading
      · simp at loadingEqual
      · obtain ⟨rfl, rfl, rfl⟩ : before = [] ∧ last = .importLibrary ∧ inner = [] := by
          simpa [List.singleton_eq_append_iff] using loadingEqual
        rw [List.append_nil] at raises
        exact .inr ⟨rfl, raises⟩

/-- Whatever calls raise, in this drawing or in those before it, the renderer is selected in a drawing,
and by a call that returns, before the drawing touches plotting. A drawing in which no call selects
the renderer has failed to load the library. -/
theorem renderer_is_selected_before_plotting (fault : Fault) (earlier : List Figure.Layout)
    (layout : Figure.Layout) :
    let start := (Session.fresh.drawAll fault earlier).2
    ∃ calls, (start.draw fault layout).2.made = start.made ++ calls ∧
      (∀ before call after, calls = before ++ call :: after → call.TouchesPlotting →
        ∃ front selection back, before = front ++ selection :: back ∧ selection.SelectsRenderer ∧
          fault (start.made ++ front) selection = false) ∧
      ((∃ call ∈ calls, call.SelectsRenderer) ∨
        calls = [.importLibrary] ∧ fault start.made .importLibrary = true) := by
  intro start
  obtain ⟨calls, drawn⟩ := start.draw_makes fault layout
  refine ⟨calls, drawn.made, ?_, ?_⟩
  · rintro before call after rfl touches
    obtain ⟨others, planned⟩ := drawn.place
    obtain ⟨front, back, rfl⟩ := selected_before planned touches
    have spared := drawn.spared _ call after rfl
    exact ⟨front, .useRenderer, back, rfl, useRenderer_selects, spared.call⟩
  · obtain selects | failed := selects_or_fails drawn
    · exact .inl ⟨_, selects, useRenderer_selects⟩
    · exact .inr failed

/-- A layout of one point, which goes to an output. -/
def onePoint (output : Path) : Figure.Layout where
  output := output
  resolution := none
  size := (6, 5)
  charts :=
    [{ title := "Load", xLabel := none, yLabel := "tps", yMax := none, ticks := [0],
       tickLabels := ["Uniform"], series := [.line "Throughput" [0] [326.5] "#40826D"],
       valueLabels := [⟨0, 326.5, "326"⟩], legend := false }]

/-- A drawing that fails to load plotting has the next one begin with the renderer again. -/
example :
    let fault := Fault.nth "import matplotlib.pyplot" 0
    let start := (Session.fresh.drawAll fault [onePoint ⟨"a.png"⟩]).2
    let ended := start.draw fault (onePoint ⟨"b.png"⟩)
    start.made = [.importLibrary, .useRenderer, .importPlotting] ∧
      (ended.2.made.drop start.made.length).take 3 =
        [.useRenderer, .importPlotting, .openFigure (6, 5)] := by
  decide +kernel

/-! ## Figures -/

/-- How many figures there are after calls, of which some raise. -/
def Fault.figures (fault : Fault) (made : List Call) : Nat :=
  (fault.returned [] made).countP fun call => call.function = "figure"

theorem after_figures (progress : Progress) (call : Call) :
    (progress.after call).figures =
      progress.figures + if call.function = "figure" then 1 else 0 := by
  cases call <;> rfl

theorem figures_after (progress : Progress) (calls : List Call) :
    (calls.foldl Progress.after progress).figures =
      progress.figures + calls.countP fun call => call.function = "figure" := by
  induction calls generalizing progress with
  | nil => rfl
  | cons call rest inductionHypothesis =>
    rw [List.foldl_cons, inductionHypothesis, List.countP_cons, after_figures]
    simp only [decide_eq_true_eq]
    omega

/-- A session knows how many figures there are. -/
theorem Session.Sound.figures {fault : Fault} {session : Session} (sound : session.Sound fault) :
    session.progress.figures = fault.figures session.made := by
  rw [sound, figures_after]
  exact Nat.zero_add _

theorem Fault.returned_subset (fault : Fault) (made calls : List Call) :
    fault.returned made calls ⊆ calls := by
  induction calls generalizing made with
  | nil => exact List.Subset.refl _
  | cons call rest inductionHypothesis =>
    rw [Fault.returned]
    split
    · exact List.subset_cons_of_subset _ (inductionHypothesis _)
    · exact List.cons_subset_cons _ (inductionHypothesis _)

/-- Calls that leave figures alone leave their number as it is. -/
theorem Fault.figures_append {fault : Fault} {made calls : List Call}
    (leave : ∀ call ∈ calls, call.LeavesFigures) :
    fault.figures (made ++ calls) = fault.figures made := by
  have none : ((fault.returned made calls).countP fun call => call.function = "figure") = 0 := by
    rw [List.countP_eq_zero]
    intro call member
    simpa using (leave call (fault.returned_subset made calls member)).1
  rw [Fault.figures, Fault.returned_append, List.countP_append, List.nil_append, none, Nat.add_zero]
  rfl

/-- A drawing opens one figure, behind its preparation. -/
theorem opening_of_plan {progress : Progress} {layout : Figure.Layout} {before after : List Call}
    {opening : Call} (split : progress.plan layout = before ++ opening :: after)
    (opens : opening.function = "figure") :
    before = progress.preparation ∧
      ∃ body, after = body ++ [.closeFigure progress.figures] ∧ ∀ call ∈ body, call.LeavesFigures := by
  obtain ⟨body, planned, leaves⟩ := plan_eq progress layout
  have absent : opening ∉ progress.preparation := fun member =>
    (leavesFigures_of_mem_preparation member).1 opens
  rw [planned] at split
  obtain ⟨inner, rfl, others⟩ := append_eq_append_cons_of_not_mem split absent
  cases inner with
  | nil =>
    obtain ⟨_, afterEqual⟩ := List.cons.inj others
    exact ⟨List.append_nil _, body, afterEqual.symm, leaves⟩
  | cons head back =>
    obtain ⟨_, rest⟩ := List.cons.inj others
    have member : opening ∈ body ++ [.closeFigure progress.figures] := by
      rw [rest]
      exact List.mem_append_right _ List.mem_cons_self
    rw [List.mem_append, List.mem_singleton] at member
    obtain inBody | rfl := member
    · exact absurd opens (leaves opening inBody).1
    · simp [Call.function] at opens

/-- The figure that a drawing opens is closed unless a call behind the opening one raises, other than
the closing one itself. -/
theorem closed_iff_undisturbed {fault : Fault} {session : Session} {layout : Figure.Layout}
    {before after : List Call} {opening : Call} {ended : Except Failure Unit × Session}
    (drawn : session.Makes fault (session.progress.plan layout) (before ++ opening :: after) ended)
    (opens : opening.function = "figure")
    (returns : fault (session.made ++ before) opening = false) :
    .closeFigure session.progress.figures ∈ after ↔
      ∀ inner call rest, after = inner ++ call :: rest →
        fault (session.made ++ (before ++ opening :: inner)) call = true → call.function = "close" := by
  obtain ⟨others, planned⟩ := drawn.place
  obtain ⟨_, body, remaining, leaves⟩ := opening_of_plan planned opens
  have unclosed : .closeFigure session.progress.figures ∉ body := fun member =>
    (leaves _ member).2 rfl
  -- The calls behind the opening one are all that were planned, or end within the body.
  obtain whole | cut := List.prefix_concat_iff.mp ⟨others, remaining⟩
  · refine ⟨fun _ => ?_, fun _ => by simp [whole]⟩
    rintro inner call rest rfl raises
    rw [← List.cons_append, ← List.append_assoc] at drawn
    obtain rfl := drawn.last_of_raises raises
    rw [(List.append_singleton_inj.mp whole).2]
    rfl
  · refine ⟨fun closed => absurd (cut.subset closed) unclosed, fun undisturbed => ?_⟩
    obtain all | ⟨front, last, ending, raises⟩ := drawn.stopped
    · -- All planned calls were made, and so the closing one among them.
      obtain ⟨_, _, closing, _⟩ := opening_of_plan all.symm opens
      rw [closing]
      exact List.mem_append_right _ (List.mem_singleton_self _)
    · obtain rfl | ⟨inner, final, rfl⟩ := List.eq_nil_or_concat after
      · obtain ⟨rfl, rfl⟩ := List.append_singleton_inj.mp ending
        rw [returns] at raises
        cases raises
      · rw [List.concat_eq_append] at cut ending ⊢
        rw [← List.cons_append, ← List.append_assoc] at ending
        obtain ⟨rfl, rfl⟩ := List.append_singleton_inj.mp ending
        have closes : final.function = "close" :=
          undisturbed inner final [] List.concat_eq_append raises
        have inBody : final ∈ body := cut.subset (List.mem_append_right _ (List.mem_singleton_self _))
        exact absurd closes (leaves final inBody).2

/-- Whatever calls raise, in this drawing or in those before it, a figure that a drawing opens is closed
by a call on that same figure if the drawing succeeds. In general it is closed exactly if no call behind
the opening one raises, the closing one apart: a drawing that is cut short leaves its figure open. -/
theorem figure_is_closed_iff_drawing_gets_to_its_end (fault : Fault) (earlier : List Figure.Layout)
    (layout : Figure.Layout) :
    let start := (Session.fresh.drawAll fault earlier).2
    let ended := start.draw fault layout
    ∃ calls, ended.2.made = start.made ++ calls ∧
      ∀ before opening after, calls = before ++ opening :: after → opening.function = "figure" →
        fault (start.made ++ before) opening = false →
        let closing := Call.closeFigure (fault.figures (start.made ++ before))
        (ended.1 = .ok () → closing ∈ after) ∧
          (closing ∈ after ↔
            ∀ inner call rest, after = inner ++ call :: rest →
              fault (start.made ++ (before ++ opening :: inner)) call = true →
              call.function = "close") := by
  intro start ended
  have sound : start.Sound fault := Session.sound_drawAll earlier Session.sound_fresh
  obtain ⟨calls, drawn⟩ := start.draw_makes fault layout
  refine ⟨calls, drawn.made, ?_⟩
  rintro before opening after rfl opens returns closing
  have sameFigure : closing = .closeFigure start.progress.figures := by
    obtain ⟨others, planned⟩ := drawn.place
    obtain ⟨rfl, _⟩ := opening_of_plan planned opens
    have leaves : fault.figures (start.made ++ start.progress.preparation) = fault.figures start.made :=
      Fault.figures_append fun _ member => leavesFigures_of_mem_preparation member
    simp only [closing, leaves, sound.figures]
  have undisturbed := closed_iff_undisturbed drawn opens returns
  rw [sameFigure]
  refine ⟨fun completed => undisturbed.mpr ?_, undisturbed⟩
  rintro inner call rest rfl raises
  have spared := (drawn.completed completed).2
  rw [← List.cons_append, ← List.append_assoc] at spared
  rw [spared.call] at raises
  cases raises

/-- The session in which the first of two figures has been drawn. -/
def firstDrawn : Session :=
  (Session.fresh.drawAll (Fault.nth "savefig" 1) [onePoint ⟨"a.png"⟩]).2

/-- Of two figures, the second cannot be saved and stays open. -/
theorem second_figure_stays_open :
    let fault := Fault.nth "savefig" 1
    let ended := firstDrawn.draw fault (onePoint ⟨"b.png"⟩)
    .closeFigure 0 ∈ firstDrawn.made ∧ ended.1 = .error (Failure.ofCause .drawingRaised) ∧
      ∃ after, ended.2.made = firstDrawn.made ++ ([.useRenderer] ++ .openFigure (6, 5) :: after) ∧
        .closeFigure 1 ∉ after := by
  let inner := chartsCalls 1 1 0 (onePoint ⟨"b.png"⟩).charts ++ [.arrange]
  let save : Call := .save ⟨"b.png"⟩ none
  have unsaved : (firstDrawn.draw (Fault.nth "savefig" 1) (onePoint ⟨"b.png"⟩)).2.made =
      firstDrawn.made ++ ([.useRenderer] ++ .openFigure (6, 5) :: (inner ++ [save])) := by
    decide +kernel
  obtain ⟨calls, made, tells⟩ := figure_is_closed_iff_drawing_gets_to_its_end
    (Fault.nth "savefig" 1) [onePoint ⟨"a.png"⟩] (onePoint ⟨"b.png"⟩)
  rw [← firstDrawn] at made
  obtain rfl := List.append_cancel_left (made.symm.trans unsaved)
  obtain ⟨_, undisturbed⟩ :=
    tells [.useRenderer] (.openFigure (6, 5)) (inner ++ [save]) rfl rfl (by decide +kernel)
  rw [← firstDrawn, show (Fault.nth "savefig" 1).figures (firstDrawn.made ++ [.useRenderer]) = 1 by
    decide +kernel] at undisturbed
  -- If the figure were closed, the call that saves it could not have raised.
  refine ⟨by decide +kernel, by decide +kernel, inner ++ [save], unsaved, fun closed => ?_⟩
  have closes : save.function = "close" := undisturbed.mp closed inner save [] rfl (by decide +kernel)
  exact absurd closes (by decide)

/-- The first figure that cannot be saved stays open, although no closing call raises. -/
theorem unsaved_figure_stays_open :
    let fault := Fault.nth "savefig" 0
    let ended := Session.fresh.draw fault (onePoint ⟨"a.png"⟩)
    (∀ made call, fault made call = true → call.function ≠ "close") ∧
      ∃ before opening after, ended.2.made = before ++ opening :: after ∧
        opening.function = "figure" ∧ fault before opening = false ∧
        ∀ call ∈ after, call.function ≠ "close" := by
  refine ⟨?_, [.importLibrary, .useRenderer, .importPlotting], .openFigure (6, 5),
    (Session.fresh.draw (Fault.nth "savefig" 0) (onePoint ⟨"a.png"⟩)).2.made.drop 4, ?_, rfl, ?_, ?_⟩
  · intro made call raises
    simp only [Fault.nth, Bool.and_eq_true, decide_eq_true_eq] at raises
    rw [raises.1]
    decide
  · decide +kernel
  · decide +kernel
  · decide +kernel

end LoadReport.Drawing
