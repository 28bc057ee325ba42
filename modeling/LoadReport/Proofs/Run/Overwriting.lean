import Mathlib.Data.List.Flatten
import LoadReport.Proofs.Config.WellFormed
import LoadReport.Proofs.Path
import LoadReport.Proofs.Run.Rendering

/-!
# Images that overwrite one another

Outputs are told apart by their components, which is less than telling files apart: a path that goes
back by `..`, begins at the root or says by a first `.` that it is relative can name the file of a path
with other components. Two outputs of an accepted report that name one file are always disguised from
one another in such a way.
-/

namespace LoadReport

namespace Path

/-- Whether a path begins with `.`, and so says that it is relative. -/
def saysRelative (path : Path) : Bool :=
  path.names.head? = some "."

/-- Two paths are disguised from one another if one of them goes back, or if only one begins at the
root, or only one with `.`. -/
def Disguised (first second : Path) : Prop :=
  ".." ∈ first.names ∨ ".." ∈ second.names ∨ first.isAbsolute ≠ second.isAbsolute ∨
    first.saysRelative ≠ second.saysRelative

theorem foldl_walk {names : List String} (forward : ".." ∉ names) (place : List String) :
    names.foldl walk place = place ++ names.filter fun name => name ≠ "" && name ≠ "." := by
  induction names generalizing place with
  | nil => simp
  | cons name rest inductionHypothesis =>
    rw [List.mem_cons, not_or] at forward
    obtain ⟨different, others⟩ := forward
    rw [List.foldl_cons, inductionHypothesis others, List.filter_cons]
    -- Nothing goes back, so that each name either stays where it is or is appended.
    by_cases skipped : name = "" ∨ name = "."
    · rw [walk, if_pos skipped]
      obtain rfl | rfl := skipped
      · rfl
      · rfl
    · obtain ⟨named, placed⟩ := not_or.mp skipped
      rw [walk, if_neg skipped, if_neg (Ne.symm different)]
      simp [named, placed]

/-- Paths that are not disguised name one file only if they have the same components. -/
theorem components_eq_of_file_eq {working : List String} {first second : Path}
    (plain : ¬ first.Disguised second) (same : first.file working = second.file working) :
    first.components = second.components := by
  simp only [Disguised, not_or, ne_eq, not_not] at plain
  obtain ⟨firstForward, secondForward, root, relative⟩ := plain
  rw [file, file, foldl_walk firstForward, foldl_walk secondForward, root,
    List.append_cancel_left_eq] at same
  simp only [saysRelative, decide_eq_decide] at relative
  simp only [components, same, root, relative]

end Path

theorem Config.outputs_of_live_sublist (config : Config) (tree : FileTree) :
    ((config.sections.filter (Section.isLive tree)).flatMap fun part =>
      part.figures.map Figure.output).Sublist config.outputs :=
  List.filter_sublist.flatMap Section.outputs

namespace Report

/-- Images of an accepted report overwrite one another only if their outputs are disguised from one
another. Where none are, a completed run has as many files as images. -/
theorem only_disguised_outputs_overwrite (working : List String) (config : Config)
    (accepted : config.check = .ok ()) :
    config.outputs.Pairwise (fun first second =>
        first.file working = second.file working → first.Disguised second) ∧
      ∀ refused limit tree trace,
        run (Drawing.recording refused) limit [] tree config = (.completed, trace) →
        config.outputs.Pairwise (fun first second => ¬ first.Disguised second) →
        (trace.generated.map (Path.file working)).Nodup := by
  have apart := ((config.check_eq_ok_iff).mp accepted).outputs
  have overwriting : config.outputs.Pairwise fun first second =>
      first.file working = second.file working → first.Disguised second := by
    refine apart.imp ?_
    intro first second differs same
    by_contra plain
    exact differs (Path.components_eq_of_file_eq plain same)
  refine ⟨overwriting, ?_⟩
  intro refused limit tree trace completed plain
  obtain ⟨steps, rfl, rendered⟩ := renders_of_completed completed
  have distinct : (config.outputs.map (Path.file working)).Nodup := by
    refine List.pairwise_map.mpr (List.Pairwise.imp ?_ (overwriting.and plain))
    intro first second told same
    exact told.2 (told.1 same)
  have among := (config.outputs_of_live_sublist tree).map (Path.file working)
  rw [Trace.followedBy_generated, rendered.announced]
  exact distinct.sublist among

/-- A report that draws one bar to each of several outputs. -/
def barTo (outputs : List Path) : Config :=
  let chart : Chart :=
    { title := "Load", kind := .bar, metrics := [.throughput], xLabel := none, yLabel := "",
      labelFormat := ⟨"%d", [.integer]⟩, yMax := none, labelOffset := 0, colors := none }
  ⟨[⟨[⟨"Uniform", .embedded ⟨some 326.5, none, none⟩⟩], outputs.map (.create · [chart])⟩]⟩

def barRun (outputs : List Path) : Ending × Trace (List Figure.Layout) :=
  run (Drawing.recording []) none [] FileTree.empty (barTo outputs)

theorem plain_outputs_have_files_of_their_own :
    let outputs : List Path := [⟨"a.png"⟩, ⟨"plots//a.png"⟩, ⟨"plots/b.png"⟩]
    (barTo outputs).check = .ok () ∧ (barRun outputs).1 = .completed ∧
      ((barRun outputs).2.generated.map (Path.file ["home"])).Nodup := by
  intro outputs
  have accepted : (barTo outputs).check = .ok () := by decide +kernel
  have ending : (barRun outputs).1 = .completed := by decide +kernel
  have completed : barRun outputs = (.completed, (barRun outputs).2) := by rw [← ending]
  have plain : (barTo outputs).outputs.Pairwise fun first second => ¬ first.Disguised second := by
    unfold Path.Disguised
    decide +kernel
  obtain ⟨_, distinct⟩ := only_disguised_outputs_overwrite ["home"] (barTo outputs) accepted
  exact ⟨accepted, ending, distinct [] none FileTree.empty _ completed plain⟩

/-- Four outputs of an accepted report that are one file, which its images overwrite in turn. -/
theorem accepted_outputs_may_name_one_file :
    let outputs : List Path := [⟨"a.png"⟩, ⟨"./a.png"⟩, ⟨"plots/../a.png"⟩, ⟨"/home/a.png"⟩]
    (barTo outputs).check = .ok () ∧ (barRun outputs).1 = .completed ∧
      (barRun outputs).2.generated.map (Path.file ["home"]) =
        [["home", "a.png"], ["home", "a.png"], ["home", "a.png"], ["home", "a.png"]] := by
  refine ⟨?_, ?_, ?_⟩
  · decide +kernel
  · decide +kernel
  · decide +kernel

end Report

end LoadReport
