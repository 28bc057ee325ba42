import LoadReport.Proofs.FileTree
import LoadReport.Proofs.Loading.Order

/-!
# Scenarios with results files

Nothing is found for a scenario just if the path of its file leads nowhere, for whatever reason. All
other files have to be read and to hold values in range. Failures to read a file say which file it is;
failures of values that are out of range do not.
-/

namespace LoadReport

/-! ## What stands at the path -/

namespace FileTree

variable {tree : FileTree} {path : Path}

theorem readResults_of_directory {entries : List (String × Node)}
    (stands : tree.find path = .ok (.directory entries)) :
    tree.readResults path = .error ⟨[.parseResults path], .file .isADirectory⟩ := by
  rw [readResults, stands]
  rfl

/-- A file that is there can be opened, so that it only fails to be parsed. -/
theorem contexts_of_unread {node : Node} {failure : Failure}
    (stands : tree.find path = .ok node) (failed : tree.readResults path = .error failure) :
    failure.contexts = [.parseResults path] := by
  cases node with
  | directory entries =>
    rw [readResults_of_directory stands] at failed
    cases failed
    rfl
  | file bytes =>
    rw [readResults, stands] at failed
    dsimp only at failed
    cases read : Results.ofBytes bytes with
    | ok results =>
      rw [read] at failed
      cases failed
    | error fault =>
      rw [read] at failed
      cases failed
      rfl

end FileTree

namespace Scenario

theorem nowhere_of_absent {tree : FileTree} {label : String} {path other : Path}
    (loaded : (load tree ⟨label, .file path⟩).outcome = .ok (.absent other)) :
    other = path ∧ ∃ fault, tree.find path = .error fault := by
  generalize loading : load tree ⟨label, .file path⟩ = result at loaded
  have way := loadsAs tree ⟨label, .file path⟩
  rw [loading] at way
  cases way with
  | absent nowhere =>
    cases loaded
    exact ⟨rfl, _, nowhere⟩
  | unread | read | readRefused => cases loaded

/-- A results file is absent, with a single warning, just if its path leads nowhere; what is there can
be opened. A directory is never results, and a file is never absent. -/
theorem absent_iff_path_leads_nowhere (tree : FileTree) (label : String) (path : Path) :
    (load tree ⟨label, .file path⟩ = ⟨[.resultsMissing label path], .ok (.absent path)⟩ ↔
        ¬ ∃ node, tree.Resolves path node) ∧
      ((¬ ∃ node, tree.Resolves path node) ↔ ∃ fault, tree.Dangles path fault) ∧
      (∀ other, (load tree ⟨label, .file path⟩).outcome = .ok (.absent other) →
        other = path ∧ ¬ ∃ node, tree.Resolves path node) ∧
      (∀ node failure, tree.Resolves path node → tree.readResults path = .error failure →
        failure.contexts = [.parseResults path]) ∧
      (∀ entries, tree.Resolves path (.directory entries) →
        load tree ⟨label, .file path⟩ =
          ⟨[], .error ⟨[.parseResults path], .file .isADirectory⟩⟩) ∧
      ∀ bytes, tree.Resolves path (.file bytes) →
        ∀ other, (load tree ⟨label, .file path⟩).outcome ≠ .ok (.absent other) := by
  have absent : ∀ other, (load tree ⟨label, .file path⟩).outcome = .ok (.absent other) →
      other = path ∧ ¬ ∃ node, tree.Resolves path node := by
    intro other loaded
    obtain ⟨rfl, nowhere⟩ := nowhere_of_absent loaded
    exact ⟨rfl, (FileTree.exists_find_eq_error_iff tree other).mp nowhere⟩
  refine ⟨⟨fun loaded => ?_, fun nowhere => ?_⟩, (FileTree.exists_dangles_iff tree path).symm, absent,
    ?_, ?_, ?_⟩
  · exact (absent path (by rw [loaded])).2
  · obtain ⟨fault, found⟩ := (FileTree.exists_find_eq_error_iff tree path).mpr nowhere
    exact load_missing found label
  · intro node failure resolves failed
    exact FileTree.contexts_of_unread ((FileTree.find_eq_ok_iff path node).mpr resolves) failed
  · intro entries resolves
    have stands := (FileTree.find_eq_ok_iff path _).mpr resolves
    exact load_unread stands (FileTree.readResults_of_directory stands) label
  · intro bytes resolves other loaded
    exact (absent other loaded).2 ⟨_, resolves⟩

/-- A directory with a file in it, next to another file. -/
def nestedFolder : FileTree :=
  .holding
    [("results", .directory [("plain.json", .file "\x7b\x7d".toUTF8.data.toList)]),
      ("wild.json", .file "\x7b\"abort_rate_pct\":140\x7d".toUTF8.data.toList)]

/-- One path leads to a file by way of the directory above, one to a directory, and three to nothing: because of a slash behind a file,
of a name that is too long, and of a name that is missing. -/
theorem nestedFolder_is_told_apart :
    let absent (path : Path) : Prop :=
      load nestedFolder ⟨"s", .file path⟩ = ⟨[.resultsMissing "s" path], .ok (.absent path)⟩
    let long : String := String.ofList (List.replicate 256 'x')
    nestedFolder.Resolves ⟨"./results//../../work/results/plain.json"⟩
        (.file "\x7b\x7d".toUTF8.data.toList) ∧
      ¬ absent ⟨"./results//../../work/results/plain.json"⟩ ∧
      load nestedFolder ⟨"s", .file ⟨"results/"⟩⟩ =
        ⟨[], .error ⟨[.parseResults ⟨"results/"⟩], .file .isADirectory⟩⟩ ∧
      nestedFolder.Dangles ⟨"wild.json/"⟩ .notADirectory ∧ absent ⟨"wild.json/"⟩ ∧
      (nestedFolder.Dangles ⟨long⟩ .nameTooLong ∧ absent ⟨long⟩) ∧
      nestedFolder.Dangles ⟨"results/none.json"⟩ .notFound ∧ absent ⟨"results/none.json"⟩ := by
  intro absent long
  have dangling : ∀ (path : Path) (fault : FileFault), nestedFolder.Dangles path fault →
      nestedFolder.Dangles path fault ∧ absent path := by
    intro path fault dangles
    obtain ⟨absent_iff, dangles_iff, _⟩ := absent_iff_path_leads_nowhere nestedFolder "s" path
    exact ⟨dangles, absent_iff.mpr (dangles_iff.mpr ⟨fault, dangles⟩)⟩
  have tooLong : nestedFolder.Dangles ⟨long⟩ .nameTooLong := by
    have unparted : Path.splitAtSlashes (List.replicate 256 'x') = [List.replicate 256 'x'] := by
      decide +kernel
    have only : FileTree.steps ⟨long⟩ = [] ++ long :: [] := by
      rw [FileTree.steps, Path.names, String.toList_ofList, unparted]
      decide +kernel
    have relative : nestedFolder.origin ⟨long⟩ = ["work"] := by
      rw [FileTree.origin, Path.isAbsolute, String.toList_ofList]
      decide +kernel
    refine .blocked only (.here _) (.long ?_ ⟨by decide +kernel, by decide +kernel⟩
      (by decide +kernel))
    rw [relative]
    exact ⟨_, rfl⟩
  have file : nestedFolder.Resolves ⟨"./results//../../work/results/plain.json"⟩
      (.file "\x7b\x7d".toUTF8.data.toList) := (FileTree.find_eq_ok_iff _ _).mp rfl
  have directory : nestedFolder.Resolves ⟨"results/"⟩
      (.directory [("plain.json", .file "\x7b\x7d".toUTF8.data.toList)]) :=
    (FileTree.find_eq_ok_iff _ _).mp rfl
  obtain ⟨_, _, _, _, _, neverAbsent⟩ := absent_iff_path_leads_nowhere nestedFolder "s" _
  obtain ⟨_, _, _, _, unreadable, _⟩ := absent_iff_path_leads_nowhere nestedFolder "s" _
  refine ⟨file, fun loaded => neverAbsent _ file _ (by rw [loaded]), unreadable _ directory, ?_⟩
  obtain ⟨slashed, slashedAbsent⟩ :=
    dangling ⟨"wild.json/"⟩ .notADirectory (FileTree.find_spec nestedFolder ⟨"wild.json/"⟩)
  obtain ⟨missing, missingAbsent⟩ :=
    dangling ⟨"results/none.json"⟩ .notFound (FileTree.find_spec nestedFolder ⟨"results/none.json"⟩)
  exact ⟨slashed, slashedAbsent, dangling ⟨long⟩ .nameTooLong tooLong, missing, missingAbsent⟩

end Scenario

/-! ## What failures say -/

namespace Failure

/-- The texts that a failure is made of, the outermost activity first. -/
def parts (failure : Failure) : List String :=
  failure.contexts.map Context.message ++ [failure.cause.message]

/-- Some text of the failure shows the path. -/
def Shows (failure : Failure) (path : Path) : Prop :=
  ∃ part ∈ failure.parts, path.text.toList <:+: part.toList

instance (failure : Failure) (path : Path) : Decidable (failure.Shows path) :=
  inferInstanceAs (Decidable (∃ part ∈ failure.parts, path.text.toList <:+: part.toList))

theorem shows_within_iff (context : Context) (failure : Failure) (path : Path) :
    (failure.within context).Shows path ↔
      path.text.toList <:+: context.message.toList ∨ failure.Shows path := by
  simp [Shows, parts, within]

theorem shows_ofCause_iff (cause : Cause) (path : Path) :
    (ofCause cause).Shows path ↔ path.text.toList <:+: cause.message.toList := by
  simp [Shows, parts, ofCause]

end Failure

namespace Scenario

/-- A failure to load a file shows the path of the file if the file could not be read. If a value in it
is out of range, only the label and the value are told, and the path is shown only where one of these
texts happens to have it inside. -/
theorem failures_show_file_unless_out_of_range {tree : FileTree} {label : String} {path : Path}
    {failure : Failure} (failed : (load tree ⟨label, .file path⟩).outcome = .error failure) :
    (tree.readResults path = .error failure ∧ failure.contexts = [.parseResults path] ∧
        failure.Shows path) ∨
      ∃ results cause, tree.readResults path = .ok results ∧
        (results.toMeasurement label).Offends Metric.all cause ∧ failure = ⟨[.metricsOf label], cause⟩ ∧
        (failure.Shows path ↔ path.text.toList <:+: (Context.metricsOf label).message.toList ∨
          path.text.toList <:+: cause.message.toList) := by
  generalize loading : load tree ⟨label, .file path⟩ = result at failed
  have way := loadsAs tree ⟨label, .file path⟩
  rw [loading] at way
  cases way with
  | absent | read => cases failed
  | unread stands unread =>
    cases failed
    have contexts := FileTree.contexts_of_unread stands unread
    have told : (Context.parseResults path).message.toList =
        "parse results file ".toList ++ path.text.toList := String.toList_append
    refine .inl ⟨unread, contexts, (Context.parseResults path).message, ?_, ?_⟩
    · rw [Failure.parts, contexts]
      exact List.mem_append_left _ (List.mem_map_of_mem List.mem_cons_self)
    · exact told ▸ (List.suffix_append _ _).isInfix
  | @readRefused _ _ results _ read refused =>
    cases failed
    obtain ⟨cause, offends, rfl⟩ := (Measurement.check_eq_error_iff _ _).mp refused
    refine .inr ⟨results, cause, read, offends, rfl, ?_⟩
    rw [Failure.shows_within_iff, Failure.shows_ofCause_iff]

/-- A directory is shown when it is read as results. A file with a value that is out of range is shown
only because its scenario is labelled with its path. -/
theorem directory_and_labelled_file_are_shown :
    (∃ failure, (load nestedFolder ⟨"s", .file ⟨"results/"⟩⟩).outcome = .error failure ∧
        failure.contexts = [.parseResults ⟨"results/"⟩] ∧ failure.Shows ⟨"results/"⟩) ∧
      ∃ failure, (load nestedFolder ⟨"wild.json", .file ⟨"wild.json"⟩⟩).outcome = .error failure ∧
        failure.contexts = [.metricsOf "wild.json"] ∧ failure.Shows ⟨"wild.json"⟩ := by
  have unread : (load nestedFolder ⟨"s", .file ⟨"results/"⟩⟩).outcome =
      .error ⟨[.parseResults ⟨"results/"⟩], .file .isADirectory⟩ := rfl
  have refused : (load nestedFolder ⟨"wild.json", .file ⟨"wild.json"⟩⟩).outcome =
      .error ⟨[.metricsOf "wild.json"], .aboveMaximum "wild.json" .abortRate 100 140⟩ := by
    decide +kernel
  have labelled : "wild.json".toList <:+: (Context.metricsOf "wild.json").message.toList := by
    decide +kernel
  refine ⟨⟨_, unread, rfl, ?_⟩, _, refused, rfl, ?_⟩
  · obtain ⟨_, _, shown⟩ | ⟨_, _, _, _, impossible, _⟩ :=
      failures_show_file_unless_out_of_range unread
    · exact shown
    · cases impossible
  · obtain ⟨_, impossible, _⟩ | ⟨_, _, _, _, _, shown⟩ :=
      failures_show_file_unless_out_of_range refused
    · cases impossible
    · exact shown.mpr (.inl labelled)

/-- A value that is out of range does not tell the file it is in. -/
theorem file_out_of_range_is_not_shown :
    let failure : Failure := ⟨[.metricsOf "D"], .aboveMaximum "D" .abortRate 100 140⟩
    (load nestedFolder ⟨"D", .file ⟨"wild.json"⟩⟩).outcome = .error failure ∧
      ¬ failure.Shows ⟨"wild.json"⟩ := by
  decide +kernel

end Scenario

end LoadReport
