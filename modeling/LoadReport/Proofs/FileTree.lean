import Mathlib.Data.List.Induction
import LoadReport.FileTree
import LoadReport.Proofs.Path

/-!
# Where paths lead

What it is for a path to lead somewhere, said without following it: each name of the path leads on from
the place that has been reached, and what it needs for that stands in the tree. A path that does not
lead anywhere dangles, for one of a few reasons. Every path does one of the two (`find_spec`), never both
(`Resolves.not_dangles`), and leads to one thing only (`Resolves.unique`), which stands where the names
of the path say (`Leads.eq_file`).
-/

namespace LoadReport.FileTree

/-! ## Places -/

theorem Node.at?_append (node : Node) (front back : List String) :
    node.at? (front ++ back) = (node.at? front).bind fun inner => inner.at? back := by
  induction front generalizing node with
  | nil => cases node <;> rfl
  | cons name rest inductionHypothesis =>
    cases node with
    | file bytes => rfl
    | directory entries =>
      rw [List.cons_append, Node.at?, Node.at?, Option.bind_assoc]
      simp only [inductionHypothesis]

/-- The entry of a directory. A file has none. -/
theorem Node.at?_singleton (entries : List (String × Node)) (name : String) :
    (directory entries).at? [name] = entries.lookup name := by
  rw [Node.at?]
  cases entries.lookup name with
  | none => rfl
  | some child => cases child <;> rfl

/-- There is a directory at a place. -/
def IsDirectory (tree : FileTree) (place : List String) : Prop :=
  ∃ entries, tree.at? place = some (.directory entries)

section

variable {tree : FileTree}

theorem at?_child {place : List String} {entries : List (String × Node)}
    (stands : tree.at? place = some (.directory entries)) (name : String) :
    tree.at? (place ++ [name]) = entries.lookup name := by
  rw [at?, Node.at?_append, ← at?, stands, Option.bind_some, Node.at?_singleton]

theorem IsDirectory.not_file {place : List String} {bytes : List UInt8}
    (directory : tree.IsDirectory place) : tree.at? place ≠ some (.file bytes) := by
  obtain ⟨entries, stands⟩ := directory
  rw [stands]
  exact nofun

theorem isDirectory_of_entry {place : List String} {name : String} {node : Node}
    (found : tree.at? (place ++ [name]) = some node) : tree.IsDirectory place := by
  rw [at?, Node.at?_append] at found
  obtain ⟨around, stands, inside⟩ := Option.bind_eq_some_iff.mp found
  cases around with
  | file bytes => cases inside
  | directory entries => exact ⟨entries, stands⟩

theorem IsDirectory.dropLast {place : List String} (directory : tree.IsDirectory place) :
    tree.IsDirectory place.dropLast := by
  cases place using List.reverseRecOn with
  | nil => exact directory
  | append_singleton front name _ =>
    obtain ⟨entries, stands⟩ := directory
    rw [List.dropLast_concat]
    exact isDirectory_of_entry stands

theorem isDirectory_iff (place : List String) :
    tree.IsDirectory place ↔ (tree.at? place).any Node.isDirectory = true := by
  rw [IsDirectory]
  cases tree.at? place with
  | none => simp
  | some node => cases node <;> simp [Node.isDirectory]

theorem isDirectory_here (tree : FileTree) : tree.IsDirectory tree.here :=
  (isDirectory_iff tree.here).mpr tree.isDirectory

/-- Every directory is below the root. -/
theorem isDirectory_root (tree : FileTree) : tree.IsDirectory [] := by
  have below : ∀ names, tree.IsDirectory names → tree.IsDirectory [] := by
    intro names
    induction names using List.reverseRecOn with
    | nil => exact id
    | append_singleton front name inductionHypothesis =>
      intro directory
      obtain ⟨entries, stands⟩ := directory
      exact inductionHypothesis (isDirectory_of_entry stands)
  exact below tree.here tree.isDirectory_here

/-! ## Names that lead on -/

/-- A name that stands for an entry, and not for where one is or comes from. -/
def IsPlain (name : String) : Prop :=
  name ≠ "." ∧ name ≠ ".."

/-- Where a name leads from a place. -/
inductive LeadsTo (tree : FileTree) (here : List String) (name : String) : List String → Prop where
  | current (same : name = ".") (directory : tree.IsDirectory here) : LeadsTo tree here name here
  | parent (up : name = "..") (directory : tree.IsDirectory here) :
      LeadsTo tree here name here.dropLast
  | entry {node : Node} (plain : IsPlain name) (short : name.utf8ByteSize ≤ nameLimit)
      (found : tree.at? (here ++ [name]) = some node) : LeadsTo tree here name (here ++ [name])

/-- Why a name leads nowhere from a place: it is asked of a file, or it is too long, or there is no such
entry. -/
inductive Blocks (tree : FileTree) (here : List String) (name : String) : FileFault → Prop where
  | file {bytes : List UInt8} (stands : tree.at? here = some (.file bytes)) :
      Blocks tree here name .notADirectory
  | long (directory : tree.IsDirectory here) (plain : IsPlain name)
      (long : nameLimit < name.utf8ByteSize) : Blocks tree here name .nameTooLong
  | missing (directory : tree.IsDirectory here) (plain : IsPlain name)
      (short : name.utf8ByteSize ≤ nameLimit) (nothing : tree.at? (here ++ [name]) = none) :
      Blocks tree here name .notFound

variable {here next other last : List String} {name : String} {fault : FileFault}

theorem LeadsTo.isDirectory (leads : LeadsTo tree here name next) : tree.IsDirectory here := by
  cases leads with
  | current _ directory => exact directory
  | parent _ directory => exact directory
  | entry _ _ found => exact isDirectory_of_entry found

/-- Something stands where a name leads. -/
theorem LeadsTo.stands (leads : LeadsTo tree here name next) : ∃ node, tree.at? next = some node := by
  cases leads with
  | current _ directory => exact ⟨_, directory.choose_spec⟩
  | parent _ directory => exact ⟨_, directory.dropLast.choose_spec⟩
  | entry _ _ found => exact ⟨_, found⟩

theorem LeadsTo.unique (leads : LeadsTo tree here name next) (leadsToo : LeadsTo tree here name other) :
    next = other := by
  cases leads with
  | current same =>
    subst same
    cases leadsToo with
    | current => rfl
    | parent up => exact absurd up (by decide)
    | entry plain => exact absurd rfl plain.1
  | parent up =>
    subst up
    cases leadsToo with
    | current same => exact absurd same (by decide)
    | parent => rfl
    | entry plain => exact absurd rfl plain.2
  | entry plain =>
    cases leadsToo with
    | current same => exact absurd same plain.1
    | parent up => exact absurd up plain.2
    | entry => rfl

theorem LeadsTo.not_blocks (leads : LeadsTo tree here name next) : ¬ Blocks tree here name fault := by
  intro blocks
  have directory := leads.isDirectory
  cases blocks with
  | file stands => exact directory.not_file stands
  | long _ plain long =>
    cases leads with
    | current same => exact plain.1 same
    | parent up => exact plain.2 up
    | entry _ short => exact Nat.not_lt.mpr short long
  | missing _ plain _ nothing =>
    cases leads with
    | current same => exact plain.1 same
    | parent up => exact plain.2 up
    | entry _ _ found =>
      rw [found] at nothing
      cases nothing

/-- Where a name leads does not depend on what stands in the tree. -/
theorem LeadsTo.eq_walk (leads : LeadsTo tree here name next) (named : name ≠ "") :
    next = Path.walk here name := by
  cases leads with
  | current same => rw [Path.walk, if_pos (.inr same)]
  | parent up =>
    subst up
    rfl
  | entry plain => rw [Path.walk, if_neg (not_or.mpr ⟨named, plain.1⟩), if_neg plain.2]

/-- Where names lead from a place, one after the other. -/
inductive Leads (tree : FileTree) : List String → List String → List String → Prop where
  | here (place : List String) : Leads tree place [] place
  | step {here next last : List String} {name : String} {rest : List String}
      (first : LeadsTo tree here name next) (onward : Leads tree next rest last) :
      Leads tree here (name :: rest) last

variable {names : List String}

theorem Leads.unique (leads : Leads tree here names last) (leadsToo : Leads tree here names other) :
    last = other := by
  induction leads with
  | here =>
    cases leadsToo
    rfl
  | step first _ inductionHypothesis =>
    cases leadsToo with
    | step another onward =>
      obtain rfl := first.unique another
      exact inductionHypothesis onward

/-- Names that lead on to their end are not blocked on the way. -/
theorem Leads.not_blocks {there : List String} {front back : List String}
    (leads : Leads tree here (front ++ name :: back) last) (arrives : Leads tree here front there) :
    ¬ Blocks tree there name fault := by
  induction arrives with
  | here =>
    cases leads with
    | step first => exact first.not_blocks
  | step first _ inductionHypothesis =>
    cases leads with
    | step another onward =>
      obtain rfl := first.unique another
      exact inductionHypothesis onward

theorem Leads.append {there : List String} {front back : List String}
    (arrives : Leads tree here front there) (onward : Leads tree there back last) :
    Leads tree here (front ++ back) last := by
  induction arrives with
  | here => exact onward
  | step first _ inductionHypothesis => exact .step first (inductionHypothesis onward)

theorem Leads.exists_of_append_singleton {front : List String}
    (leads : Leads tree here (front ++ [name]) last) :
    ∃ there, Leads tree here front there ∧ LeadsTo tree there name last := by
  induction front generalizing here with
  | nil =>
    cases leads with
    | step first onward =>
      cases onward
      exact ⟨here, .here _, first⟩
  | cons next rest inductionHypothesis =>
    cases leads with
    | step first onward =>
      obtain ⟨there, arrives, last⟩ := inductionHypothesis onward
      exact ⟨there, .step first arrives, last⟩

theorem Leads.eq_foldl_walk (leads : Leads tree here names last) (named : "" ∉ names) :
    last = names.foldl Path.walk here := by
  induction leads with
  | here => rfl
  | step first _ inductionHypothesis =>
    rw [List.mem_cons, not_or] at named
    rw [List.foldl_cons, ← first.eq_walk (Ne.symm named.1)]
    exact inductionHypothesis named.2

/-! ## Paths -/

/-- A path that can be followed at all. -/
structure IsSpeakable (path : Path) : Prop where
  clean : '\x00' ∉ path.text.toList
  short : path.text.utf8ByteSize ≤ pathLimit
  nonempty : path.text ≠ ""

/-- A path leads to a file or a directory: its names do, and it does not end in a slash behind a
file. -/
structure Resolves (tree : FileTree) (path : Path) (node : Node) : Prop where
  speakable : IsSpeakable path
  leads : ∃ last, Leads tree (tree.origin path) (steps path) last ∧ tree.at? last = some node
  unslashed : endsInSlash path = true → ∃ entries, node = .directory entries

/-- Why a path leads nowhere. -/
inductive Dangles (tree : FileTree) (path : Path) : FileFault → Prop where
  | unclean (unclean : '\x00' ∈ path.text.toList) : Dangles tree path .invalidName
  | long (long : pathLimit < path.text.utf8ByteSize) : Dangles tree path .nameTooLong
  | empty (empty : path.text = "") : Dangles tree path .notFound
  | blocked {front back there : List String} {name : String} {fault : FileFault}
      (split : steps path = front ++ name :: back)
      (arrives : Leads tree (tree.origin path) front there) (blocks : Blocks tree there name fault) :
      Dangles tree path fault
  | slashed {last : List String} {bytes : List UInt8}
      (leads : Leads tree (tree.origin path) (steps path) last)
      (stands : tree.at? last = some (.file bytes)) (slash : endsInSlash path = true) :
      Dangles tree path .notADirectory

variable {path : Path} {node : Node}

theorem Resolves.unique {another : Node} (resolves : tree.Resolves path node)
    (resolvesToo : tree.Resolves path another) : node = another := by
  obtain ⟨_, ⟨last, leads, stands⟩, _⟩ := resolves
  obtain ⟨_, ⟨other, leadsToo, standsToo⟩, _⟩ := resolvesToo
  obtain rfl := leads.unique leadsToo
  exact Option.some.inj (stands.symm.trans standsToo)

theorem Resolves.not_dangles (resolves : tree.Resolves path node) : ¬ tree.Dangles path fault := by
  intro dangles
  obtain ⟨speakable, ⟨last, leads, stands⟩, unslashed⟩ := resolves
  cases dangles with
  | unclean unclean => exact speakable.clean unclean
  | long long => exact Nat.not_lt.mpr speakable.short long
  | empty empty => exact speakable.nonempty empty
  | blocked split arrives blocks =>
    rw [split] at leads
    exact leads.not_blocks arrives blocks
  | slashed leadsToo file slash =>
    obtain rfl := leads.unique leadsToo
    obtain ⟨entries, rfl⟩ := unslashed slash
    rw [stands] at file
    cases file

/-- A path that leads somewhere leads to the place that it names where there are no links. -/
theorem Leads.eq_file (leads : Leads tree (tree.origin path) (steps path) last) :
    last = path.file tree.here := by
  rw [leads.eq_foldl_walk (by simp [steps]), steps, Path.foldl_walk_filter]
  rfl

/-! ## Paths that are followed -/

/-- Following a name leads on, or says why the name leads nowhere. -/
theorem enter_spec (stands : tree.at? here = some node) (name : String) :
    match tree.enter here name with
    | .ok next => LeadsTo tree here name next
    | .error fault => Blocks tree here name fault := by
  rw [enter, stands]
  cases node with
  | file bytes => exact .file stands
  | directory entries =>
    have directory : tree.IsDirectory here := ⟨entries, stands⟩
    have entry := at?_child stands name
    dsimp only
    by_cases current : name = "."
    · rw [if_pos current]
      exact .current current directory
    by_cases parent : name = ".."
    · rw [if_neg current, if_pos parent]
      exact .parent parent directory
    rw [if_neg current, if_neg parent]
    by_cases long : nameLimit < name.utf8ByteSize
    · rw [if_pos long]
      exact .long directory ⟨current, parent⟩ long
    have short := Nat.not_lt.mp long
    rw [if_neg long]
    cases found : entries.lookup name with
    | none => exact .missing directory ⟨current, parent⟩ short (entry.trans found)
    | some child => exact .entry ⟨current, parent⟩ short (entry.trans found)

theorem follow_spec (stands : tree.at? here = some node) (names : List String) :
    match tree.follow here names with
    | .ok last => Leads tree here names last ∧ ∃ other, tree.at? last = some other
    | .error fault => ∃ front name back there, names = front ++ name :: back ∧
        Leads tree here front there ∧ Blocks tree there name fault := by
  induction names generalizing here node with
  | nil => exact ⟨.here _, _, stands⟩
  | cons name rest inductionHypothesis =>
    have entered := enter_spec stands name
    rw [follow]
    cases reached : tree.enter here name with
    | error fault =>
      rw [reached] at entered
      exact ⟨[], name, rest, here, rfl, .here _, entered⟩
    | ok next =>
      rw [reached] at entered
      have onward := inductionHypothesis entered.stands.choose_spec
      change match tree.follow next rest with
        | .ok last => Leads tree here (name :: rest) last ∧ _
        | .error fault => _
      cases followed : tree.follow next rest with
      | ok last =>
        rw [followed] at onward
        exact ⟨.step entered onward.1, onward.2⟩
      | error fault =>
        rw [followed] at onward
        obtain ⟨front, blocking, back, there, rfl, arrives, blocks⟩ := onward
        exact ⟨name :: front, blocking, back, there, rfl, .step entered arrives, blocks⟩

theorem isDirectory_origin (tree : FileTree) (path : Path) : tree.IsDirectory (tree.origin path) := by
  rw [origin]
  split
  · exact tree.isDirectory_root
  · exact tree.isDirectory_here

/-- Every path leads somewhere or dangles. -/
theorem find_spec (tree : FileTree) (path : Path) :
    match tree.find path with
    | .ok node => tree.Resolves path node
    | .error fault => tree.Dangles path fault := by
  have followed := follow_spec (tree.isDirectory_origin path).choose_spec (steps path)
  rw [find]
  by_cases unclean : '\x00' ∈ path.text.toList
  · rw [if_pos unclean]
    exact .unclean unclean
  by_cases long : pathLimit < path.text.utf8ByteSize
  · rw [if_neg unclean, if_pos long]
    exact .long long
  by_cases empty : path.text = ""
  · rw [if_neg unclean, if_neg long, if_pos empty]
    exact .empty empty
  have speakable : IsSpeakable path := ⟨unclean, Nat.not_lt.mp long, empty⟩
  simp only [unclean, long, empty, if_false]
  cases reached : tree.follow (tree.origin path) (steps path) with
  | error fault =>
    rw [reached] at followed
    obtain ⟨front, name, back, there, split, arrives, blocks⟩ := followed
    exact .blocked split arrives blocks
  | ok last =>
    rw [reached] at followed
    obtain ⟨leads, node, stands⟩ := followed
    cases node with
    | directory entries =>
      simp only [bind, Except.bind, stands]
      exact ⟨speakable, ⟨_, leads, stands⟩, fun _ => ⟨entries, rfl⟩⟩
    | file bytes =>
      simp only [bind, Except.bind, stands]
      cases slash : endsInSlash path with
      | true => exact .slashed leads stands slash
      | false => exact ⟨speakable, ⟨_, leads, stands⟩, fun ends => nomatch slash.symm.trans ends⟩

theorem find_eq_ok_iff (path : Path) (node : Node) :
    tree.find path = .ok node ↔ tree.Resolves path node := by
  have spec := find_spec tree path
  cases found : tree.find path with
  | ok other =>
    rw [found] at spec
    rw [Except.ok.injEq]
    constructor
    · rintro rfl
      exact spec
    · exact spec.unique
  | error fault =>
    rw [found] at spec
    exact ⟨nofun, fun resolves => absurd spec resolves.not_dangles⟩

theorem exists_find_eq_error_iff (tree : FileTree) (path : Path) :
    (∃ fault, tree.find path = .error fault) ↔ ¬ ∃ node, tree.Resolves path node := by
  simp only [← find_eq_ok_iff]
  cases tree.find path with
  | ok node => exact ⟨nofun, fun nowhere => absurd ⟨node, rfl⟩ nowhere⟩
  | error fault => exact ⟨fun _ => nofun, fun _ => ⟨fault, rfl⟩⟩

/-- A path dangles just if it leads nowhere. -/
theorem exists_dangles_iff (tree : FileTree) (path : Path) :
    (∃ fault, tree.Dangles path fault) ↔ ¬ ∃ node, tree.Resolves path node := by
  constructor
  · rintro ⟨fault, dangles⟩ ⟨node, resolves⟩
    exact resolves.not_dangles dangles
  · intro nowhere
    obtain ⟨fault, found⟩ := (exists_find_eq_error_iff tree path).mpr nowhere
    have spec := find_spec tree path
    rw [found] at spec
    exact ⟨fault, spec⟩

end

end LoadReport.FileTree
