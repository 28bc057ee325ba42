import LoadReport.Proofs.FileTree.Changes
import LoadReport.Proofs.Run.Bookkeeping
import LoadReport.Proofs.Run.Composition

/-!
# Reports that save their images

An image that is saved is one of the files for the sections that come after it. What a section does
depends only on what there is to read at the paths of its scenarios; so as long as no image changes
that, a report does the same whether or not its images are kept in files.

* `Undisturbed` — no section reads what the images of the sections before it have changed.
* `runSaving_of_undisturbed` — then it makes no difference that the images are saved.
* `undisturbed_of_apart` — images that no later section names as a source disturb none.
-/

namespace LoadReport

open FileTree

/-! ## Loading -/

/-- No results begin with a byte that no token begins with. -/
theorem Results.ofBytes_of_refused {byte : UInt8}
    (refused : Json.Scanner.step byte .between = Json.Scanner.refuse) (rest : List UInt8) :
    ofBytes (byte :: rest) = .error .malformed := by
  have tokens : Json.tokens (byte :: rest) = .invalid :: Json.Scanner.scan .stopped rest := by
    simp only [Json.tokens, Json.Scanner.scan, Json.Scanner.advance, refused, Json.Scanner.refuse,
      List.cons_append, List.nil_append]
  rw [ofBytes, tokens]
  rfl

section

variable {tree other : FileTree}

theorem FileTree.contains_eq (tree : FileTree) (path : Path) :
    tree.contains path = (tree.content? path).isSome := by
  rw [contains, content?]
  cases tree.find path <;> rfl

theorem FileTree.readResults_congr {path : Path} (same : other.content? path = tree.content? path)
    (there : tree.contains path = true) : other.readResults path = tree.readResults path := by
  rw [contains_eq, Option.isSome_iff_exists] at there
  obtain ⟨kind, found⟩ := there
  rw [found] at same
  rw [content?_eq_some_iff] at found same
  obtain ⟨node, resolves, rfl⟩ := found
  obtain ⟨another, resolvesToo, alike⟩ := same
  rw [readResults, readResults, (find_eq_ok_iff path node).mpr resolves,
    (find_eq_ok_iff path another).mpr resolvesToo]
  cases node with
  | file bytes =>
    cases another with
    | file others =>
      obtain rfl := Option.some.inj alike
      rfl
    | directory entries => cases alike
  | directory entries =>
    cases another with
    | file others => cases alike
    | directory others => rfl

theorem Scenario.load_congr {scenario : Scenario}
    (same : ∀ path, scenario.source.path? = some path → other.content? path = tree.content? path) :
    scenario.load other = scenario.load tree := by
  cases source : scenario.source with
  | embedded values => simp only [load, source]
  | file path =>
    have alike := same path (by rw [source, Source.path?])
    have contained : other.contains path = tree.contains path := by
      rw [contains_eq, contains_eq, alike]
    simp only [load, source, contained]
    cases there : tree.contains path with
    | false => rfl
    | true => rw [readResults_congr alike there]

theorem Scenario.loadAll_congr {scenarios : List Scenario}
    (same : ∀ scenario ∈ scenarios, scenario.load other = scenario.load tree) :
    loadAll other scenarios = loadAll tree scenarios := by
  induction scenarios with
  | nil => rfl
  | cons scenario rest inductionHypothesis =>
    rw [List.forall_mem_cons] at same
    rw [loadAll, loadAll, same.1, inductionHypothesis same.2]

end

namespace Report

/-- A section does the same with other files if these say the same at its sources. -/
theorem sectionScript_congr {tree other : FileTree} {part : Section}
    (same : ∀ path ∈ part.sources, other.content? path = tree.content? path) :
    sectionScript other part = sectionScript tree part := by
  have loads : Scenario.loadAll other part.scenarios = Scenario.loadAll tree part.scenarios :=
    Scenario.loadAll_congr fun scenario member => Scenario.load_congr fun path source =>
      same path (List.mem_filterMap.mpr ⟨scenario, member, source⟩)
  rw [sectionScript, sectionScript, loads]

/-! ## Reports that no image disturbs -/

section

variable (saving : Saving) (tree : FileTree)

theorem Saving.after_append (first second : List Step) :
    saving.after tree (first ++ second) = saving.after (saving.after tree first) second := by
  rw [after, after, after, List.flatMap_append, List.foldl_append]

theorem sectionsScript_append (first second : List Section) :
    sectionsScript saving tree (first ++ second) =
      sectionsScript saving tree first ++
        sectionsScript saving (saving.after tree (sectionsScript saving tree first)) second := by
  induction first generalizing tree with
  | nil => rfl
  | cons part rest inductionHypothesis =>
    simp only [List.cons_append, sectionsScript, inductionHypothesis, Saving.after_append,
      List.append_assoc]

theorem sectionsScript_singleton (part : Section) :
    sectionsScript saving tree [part] = sectionScript tree part :=
  List.append_nil _

/-- What there is to read at the sources of a section does not change while the sections before it
save their images. -/
def Undisturbed (sections : List Section) : Prop :=
  ∀ earlier part later, sections = earlier ++ part :: later → ∀ path ∈ part.sources,
    (saving.after tree (sectionsScript saving tree earlier)).content? path = tree.content? path

variable {saving tree} {config : Config}

theorem sectionsScript_of_undisturbed {sections : List Section}
    (undisturbed : Undisturbed saving tree sections) :
    sectionsScript saving tree sections = sections.flatMap (sectionScript tree) := by
  -- From the front on: what is loaded next depends on the files that the sections so far have left.
  have front : ∀ earlier, earlier <+: sections →
      sectionsScript saving tree earlier = earlier.flatMap (sectionScript tree) := by
    intro earlier
    induction earlier using List.reverseRecOn with
    | nil => exact fun _ => rfl
    | append_singleton earlier part inductionHypothesis =>
      intro begins
      obtain ⟨later, rfl⟩ := begins
      rw [List.append_assoc, List.singleton_append] at undisturbed inductionHypothesis
      have loaded : sectionScript (saving.after tree (sectionsScript saving tree earlier)) part =
          sectionScript tree part :=
        sectionScript_congr (undisturbed earlier part later rfl)
      rw [sectionsScript_append, sectionsScript_singleton, loaded,
        inductionHypothesis (List.prefix_append _ _), List.flatMap_append, List.flatMap_singleton]
  exact front sections (List.prefix_refl sections)

/-- As long as no image disturbs a section, a report does the same as without images in the files. -/
theorem runSaving_of_undisturbed {σ : Type} (backend : Drawing.Backend σ) (limit : Option Nat)
    (initial : σ) (undisturbed : Undisturbed saving tree config.sections) :
    runSaving saving backend limit initial tree config = run backend limit initial tree config := by
  have same : scriptSaving saving tree config = script tree config := by
    cases checked : config.check with
    | error failure => rw [script_of_error checked, scriptSaving, checked]
    | ok accepted =>
      rw [script_of_ok checked, scriptSaving, checked]
      exact sectionsScript_of_undisturbed undisturbed
  rw [runSaving, same, run]

end

/-! ## Images in files -/

section

variable (bytes : Figure.Layout → List UInt8) (tree : FileTree)

/-- Images change nothing but the files that they are saved to. -/
theorem agreeOutside_after (steps : List Step) :
    AgreeOutside ((steps.flatMap Step.drawn).map fun layout => layout.output.file tree.here) tree
      ((Saving.image bytes).after tree steps) := by
  rw [Saving.after]
  induction steps.flatMap Step.drawn generalizing tree with
  | nil => exact .refl _ tree
  | cons layout rest inductionHypothesis =>
    have first := agreeOutside_write tree layout.output (bytes layout)
    have others := inductionHypothesis (tree.write layout.output (bytes layout))
    rw [first.here] at others
    exact first.trans others

theorem exists_figure_of_mem_sectionsScript (saving : Saving) {sections : List Section}
    {layout : Figure.Layout} (member : Step.draw layout ∈ sectionsScript saving tree sections) :
    ∃ part ∈ sections, ∃ figure ∈ part.figures, layout.output = figure.output := by
  induction sections generalizing tree with
  | nil => cases member
  | cons part rest inductionHypothesis =>
    rw [sectionsScript, List.mem_append] at member
    obtain here | later := member
    · obtain ⟨figure, shown, laidOut⟩ := figure_of_mem_sectionScript here
      have image : Image.LaidOut tree ⟨part, figure⟩ layout := laidOut
      exact ⟨part, List.mem_cons_self, figure, shown, image.output⟩
    · obtain ⟨other, among, figure, shown, same⟩ := inductionHypothesis _ later
      exact ⟨other, List.mem_cons_of_mem _ among, figure, shown, same⟩

/-- Images disturb no section if none has a source among the outputs of the sections before it. -/
theorem undisturbed_of_apart {sections : List Section}
    (apart : sections.Pairwise fun earlier later => ∀ figure ∈ earlier.figures, ∀ path ∈ later.sources,
      path.file tree.here ≠ figure.output.file tree.here) :
    Undisturbed (.image bytes) tree sections := by
  intro earlier part later split path source
  subst split
  refine (agreeOutside_after bytes tree _).content?_eq fun changed => ?_
  -- A file that has changed is the output of a layout, and so of a figure of an earlier section.
  obtain ⟨layout, drawn, same⟩ := List.mem_map.mp changed
  obtain ⟨step, among, draws⟩ := List.mem_flatMap.mp drawn
  obtain rfl := Step.mem_drawn_iff.mp draws
  obtain ⟨before, member, figure, shown, output⟩ :=
    exists_figure_of_mem_sectionsScript tree (.image bytes) among
  have distinct := (List.pairwise_append.mp apart).2.2 before member part List.mem_cons_self
  exact distinct figure shown path source (by rw [← same, output])

end

/-! ## Images that are read -/

theorem sectionScript_of_malformed {tree : FileTree} {path : Path} {bytes : List UInt8}
    (stands : tree.find path = .ok (.file bytes)) (malformed : Results.ofBytes bytes = .error .malformed)
    (label : String) (others : List Scenario) (figures : List Figure) :
    sectionScript tree ⟨⟨label, .file path⟩ :: others, figures⟩ =
      [.fail ⟨[.loadScenarios, .parseResults path], .content .malformed⟩] := by
  have there : tree.contains path = true := by
    rw [FileTree.contains, stands]
    rfl
  simp only [sectionScript, Scenario.loadAll, Scenario.load, there, FileTree.readResults, stands,
    malformed]
  rfl

/-- A report ends where an image, or whatever else is no results file, stands in the place of one. -/
theorem runSaving_of_malformed {σ : Type} {saving : Saving} {backend : Drawing.Backend σ}
    {limit : Option Nat} {initial : σ} {tree : FileTree} {earlier later : List Section}
    {label : String} {path : Path} {others : List Scenario} {figures : List Figure}
    {bytes : List UInt8} {trace : Trace σ}
    (accepted : Config.check ⟨earlier ++ ⟨⟨label, .file path⟩ :: others, figures⟩ :: later⟩ = .ok ())
    (completed : runSaving saving backend limit initial tree ⟨earlier⟩ = (.completed, trace))
    (stands : (saving.after tree (sectionsScript saving tree earlier)).find path = .ok (.file bytes))
    (malformed : Results.ofBytes bytes = .error .malformed) :
    runSaving saving backend limit initial tree
        ⟨earlier ++ ⟨⟨label, .file path⟩ :: others, figures⟩ :: later⟩ =
      (.failed ⟨[.loadScenarios, .parseResults path], .content .malformed⟩, trace) := by
  obtain ⟨acceptedBefore, _⟩ := Config.check_append accepted
  simp only [runSaving, scriptSaving, acceptedBefore] at completed
  simp only [runSaving, scriptSaving, accepted, sectionsScript_append, sectionsScript,
    sectionScript_of_malformed stands malformed,
    Trace.performAll_append_of_completed backend limit _ completed]
  rfl

end Report

end LoadReport
