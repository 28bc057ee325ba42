import LoadReport.Config.Preset
import LoadReport.Proofs.FileTree
import LoadReport.Proofs.Loading.Order

/-!
# Results files in the working directory

The report of the benchmark reads a file for each workload. What stands in the place of such a file
comes to one of three things (`Workload.load_cases`): there is nothing, or something that is of no use,
or a file with results in range. It takes no more than the entries of the working directory to tell.
-/

namespace LoadReport

/-! ## Entries of the working directory -/

namespace FileTree

/-- A name that is an entry of the working directory or leads nowhere. -/
structure IsEntryName (name : String) : Prop where
  steps : steps ⟨name⟩ = [name]
  relative : Path.isAbsolute ⟨name⟩ = false
  unslashed : endsInSlash ⟨name⟩ = false
  clean : '\x00' ∉ name.toList
  short : name.utf8ByteSize ≤ nameLimit
  named : name ≠ "" ∧ name ≠ "." ∧ name ≠ ".."

/-- The entries of the working directory. -/
def entries (tree : FileTree) : List (String × Node) :=
  match tree.at? tree.here with
  | some (.directory entries) => entries
  | _ => []

variable (tree : FileTree) {name : String} (plain : IsEntryName name)

theorem at?_here : tree.at? tree.here = some (.directory tree.entries) := by
  obtain ⟨entries, stands⟩ := tree.isDirectory_here
  rw [FileTree.entries, stands]

include plain in
theorem find_entry :
    tree.find ⟨name⟩ =
      match tree.entries.lookup name with
      | some node => .ok node
      | none => .error .notFound := by
  obtain ⟨steps, relative, unslashed, clean, short, nonempty, notDot, notDots⟩ := plain
  have fits : ¬ pathLimit < name.utf8ByteSize := by
    simp only [nameLimit, pathLimit] at short ⊢
    omega
  have start : tree.origin ⟨name⟩ = tree.here := by
    rw [origin, relative]
    rfl
  -- The name is a single step from the working directory, which neither stays there nor goes up.
  have entered : tree.enter tree.here name =
      if (tree.entries.lookup name).isSome then .ok (tree.here ++ [name]) else .error .notFound := by
    rw [enter, tree.at?_here]
    simp only [notDot, notDots, Nat.not_lt.mpr short, if_false]
  have entry := at?_child tree.at?_here name
  rw [find]
  simp only [clean, fits, nonempty, if_false, start, steps, follow, entered]
  cases found : tree.entries.lookup name with
  | none => rfl
  | some node =>
    rw [found] at entry
    simp only [Option.isSome_some, if_true, bind, Except.bind, pure, Except.pure, entry]
    cases node with
    | file bytes => simp [unslashed]
    | directory others => rfl

include plain in
theorem readResults_entry_eq_ok_iff (results : Results) :
    tree.readResults ⟨name⟩ = .ok results ↔
      ∃ bytes, tree.entries.lookup name = some (.file bytes) ∧ Results.ofBytes bytes = .ok results := by
  rw [readResults, tree.find_entry plain]
  cases tree.entries.lookup name with
  | none => simp [during, Except.mapError]
  | some node =>
    cases node with
    | directory others => simp [during, Except.mapError]
    | file bytes => cases content : Results.ofBytes bytes <;> simp [during, Except.mapError, content]

end FileTree

/-! ## Results files -/

/-- A workload of the benchmark and the file in which its results stand. -/
structure Workload where
  label : String
  file : String
deriving DecidableEq

namespace Workload

def all : List Workload :=
  [⟨"Uniform", "results_uniform.json"⟩, ⟨"Hot-Spot", "results_hotspot.json"⟩]

def scenario (workload : Workload) : Scenario :=
  ⟨workload.label, .file ⟨workload.file⟩⟩

theorem resultsFiles_eq : Preset.resultsFiles = all.map scenario :=
  rfl

theorem isEntryName_of_mem_all {workload : Workload} (member : workload ∈ all) :
    FileTree.IsEntryName workload.file := by
  obtain rfl | rfl : workload = ⟨"Uniform", "results_uniform.json"⟩ ∨
      workload = ⟨"Hot-Spot", "results_hotspot.json"⟩ := by
    simpa [all] using member
  · exact ⟨by decide, by decide, by decide, by decide, by decide, by decide⟩
  · exact ⟨by decide, by decide, by decide, by decide, by decide, by decide⟩

variable (tree : FileTree) (workload : Workload)

/-- Whether anything stands in the place of the file. -/
def isThere : Bool :=
  (tree.entries.lookup workload.file).isSome

/-- The results in the file, if it is there, can be read and has values in range. -/
def results? : Option Results :=
  match tree.entries.lookup workload.file with
  | some (.file bytes) =>
    match Results.ofBytes bytes with
    | .ok results =>
      if (results.toMeasurement workload.label).check = .ok () then some results else none
    | .error _ => none
  | _ => none

variable {workload}

theorem results?_of_absent (absent : workload.isThere tree = false) :
    workload.results? tree = none := by
  rw [isThere, Option.isSome_eq_false_iff, Option.isNone_iff_eq_none] at absent
  rw [results?, absent]

section

variable (plain : FileTree.IsEntryName workload.file)
include plain

theorem results?_eq_some_iff (results : Results) :
    workload.results? tree = some results ↔
      tree.readResults ⟨workload.file⟩ = .ok results ∧
        (results.toMeasurement workload.label).check = .ok () := by
  rw [tree.readResults_entry_eq_ok_iff plain, results?]
  cases tree.entries.lookup workload.file with
  | none => simp
  | some node =>
    cases node with
    | directory others => simp
    | file bytes =>
      cases content : Results.ofBytes bytes with
      | error fault => simp [content]
      | ok found =>
        have same : (∃ others, some (FileTree.Node.file bytes) = some (.file others) ∧
            Results.ofBytes others = .ok results) ↔ found = results := by
          simp [content]
        rw [same]
        by_cases passed : (found.toMeasurement workload.label).check = .ok ()
        · simp only [content, if_pos passed, Option.some.injEq]
          exact ⟨fun equal => ⟨equal, equal ▸ passed⟩, And.left⟩
        · simp only [content, if_neg passed, reduceCtorEq, false_iff, not_and]
          exact fun equal => equal ▸ passed

/-- What the file comes to: there is none, it is of no use, or it has results to show. -/
theorem load_cases :
    let outcome := (workload.scenario.load tree).outcome
    (workload.isThere tree = false ∧ workload.results? tree = none ∧
        outcome = .ok (.absent ⟨workload.file⟩)) ∨
      (workload.isThere tree = true ∧ workload.results? tree = none ∧
        ∃ failure, outcome = .error failure) ∨
      ∃ results, workload.isThere tree = true ∧ workload.results? tree = some results ∧
        outcome = .ok (.found (results.toMeasurement workload.label)) := by
  have stands := tree.find_entry plain
  have usable := results?_eq_some_iff tree plain
  -- The ways to load a scenario from a file, told apart by what stands in its place.
  have loads := Scenario.loadsAs tree workload.scenario
  simp only [isThere]
  generalize workload.scenario.load tree = loading at loads
  unfold scenario at loads
  cases loads with
  | absent nowhere =>
    cases there : tree.entries.lookup workload.file with
    | some node =>
      rw [there, nowhere] at stands
      cases stands
    | none => exact .inl ⟨rfl, by rw [results?, there], rfl⟩
  | unread found failed =>
    cases there : tree.entries.lookup workload.file with
    | none =>
      rw [there, found] at stands
      cases stands
    | some node =>
      refine .inr (.inl ⟨rfl, Option.eq_none_iff_forall_ne_some.mpr ?_, _, rfl⟩)
      intro results shown
      rw [usable, failed] at shown
      cases shown.1
  | read read passed =>
    obtain ⟨bytes, there, _⟩ := (tree.readResults_entry_eq_ok_iff plain _).mp read
    exact .inr (.inr ⟨_, by rw [there, Option.isSome_some], (usable _).mpr ⟨read, passed⟩, rfl⟩)
  | readRefused read refused =>
    obtain ⟨bytes, there, _⟩ := (tree.readResults_entry_eq_ok_iff plain _).mp read
    refine .inr (.inl ⟨by rw [there, Option.isSome_some],
      Option.eq_none_iff_forall_ne_some.mpr ?_, _, rfl⟩)
    intro results shown
    rw [usable, read] at shown
    obtain ⟨same, passed⟩ := shown
    cases same
    rw [refused] at passed
    cases passed

theorem loads_iff :
    workload.scenario.Loads tree ↔
      (workload.isThere tree = true → workload.results? tree ≠ none) := by
  obtain ⟨there, none, loaded⟩ | ⟨there, none, _, failed⟩ | ⟨results, there, shown, loaded⟩ :=
    load_cases tree plain
  · simp [Scenario.Loads, there, loaded]
  · simp [Scenario.Loads, there, none, failed]
  · simp [Scenario.Loads, shown, loaded]

theorem found?_scenario :
    workload.scenario.found? tree =
      (workload.results? tree).map fun results => results.toMeasurement workload.label := by
  obtain ⟨_, none, loaded⟩ | ⟨_, none, failure, failed⟩ | ⟨results, _, shown, loaded⟩ :=
    load_cases tree plain
  · simp [Scenario.found?, none, loaded]
  · simp [Scenario.found?, none, failed]
  · simp [Scenario.found?, shown, loaded]

theorem missing?_scenario :
    workload.scenario.missing? tree =
      if workload.isThere tree then none else some ⟨workload.file⟩ := by
  obtain ⟨there, _, loaded⟩ | ⟨there, _, failure, failed⟩ | ⟨results, there, _, loaded⟩ :=
    load_cases tree plain
  · simp [Scenario.missing?, there, loaded]
  · simp [Scenario.missing?, there, failed]
  · simp [Scenario.missing?, there, loaded]

end

end Workload

end LoadReport
