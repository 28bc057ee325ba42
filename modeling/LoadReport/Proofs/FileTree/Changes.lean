import LoadReport.Proofs.FileTree

/-!
# Trees that agree outside some places

Two trees agree outside some places if they have the same directories and, at every other place, the
same files. A path that names none of the places leads to the same in both (`AgreeOutside.content?_eq`).
Writing a file changes a tree only where the path leads, and so does removing one.
-/

namespace LoadReport.FileTree

/-- The bytes of a file; a directory has none. -/
def Node.bytes? : Node → Option (List UInt8)
  | file bytes => some bytes
  | directory _ => none

/-- What there is to read at a path, if it leads anywhere: bytes, or a directory. -/
def content? (tree : FileTree) (path : Path) : Option (Option (List UInt8)) :=
  (tree.find path).toOption.map Node.bytes?

/-- What stands at a place, up to the entries of a directory. -/
def kind? (tree : FileTree) (place : List String) : Option (Option (List UInt8)) :=
  (tree.at? place).map Node.bytes?

/-- Two trees with the same directories, and with the same files outside some places. -/
structure AgreeOutside (places : List (List String)) (tree other : FileTree) : Prop where
  here : other.here = tree.here
  directories (place : List String) : other.IsDirectory place ↔ tree.IsDirectory place
  elsewhere {place : List String} (outside : place ∉ places) : other.kind? place = tree.kind? place

theorem origin_congr {tree other : FileTree} (here : other.here = tree.here) (path : Path) :
    other.origin path = tree.origin path := by
  rw [origin, origin, here]

theorem isDirectory_iff_kind? (tree : FileTree) (place : List String) :
    tree.IsDirectory place ↔ tree.kind? place = some none := by
  rw [IsDirectory, kind?]
  cases tree.at? place with
  | none => simp
  | some node => cases node <;> simp [Node.bytes?]

theorem content?_eq_some_iff (tree : FileTree) (path : Path) (bytes : Option (List UInt8)) :
    tree.content? path = some bytes ↔ ∃ node, tree.Resolves path node ∧ node.bytes? = bytes := by
  simp only [← find_eq_ok_iff, content?, Option.map_eq_some_iff]
  cases tree.find path with
  | ok node => simp [Except.toOption]
  | error fault => simp [Except.toOption]

namespace AgreeOutside

variable {places more : List (List String)} {tree other third : FileTree}

theorem refl (places : List (List String)) (tree : FileTree) : AgreeOutside places tree tree where
  here := rfl
  directories _ := Iff.rfl
  elsewhere _ := rfl

theorem symm (agree : AgreeOutside places tree other) : AgreeOutside places other tree where
  here := agree.here.symm
  directories place := (agree.directories place).symm
  elsewhere outside := (agree.elsewhere outside).symm

/-- A change inside some places, and then one inside others. -/
theorem trans (first : AgreeOutside places tree other) (second : AgreeOutside more other third) :
    AgreeOutside (places ++ more) tree third where
  here := second.here.trans first.here
  directories place := (second.directories place).trans (first.directories place)
  elsewhere outside := by
    rw [List.mem_append, not_or] at outside
    exact (second.elsewhere outside.2).trans (first.elsewhere outside.1)

section

variable (agree : AgreeOutside places tree other) {place last : List String} {name : String}
  {names : List String}
include agree

/-- What stands at a place stands there in the other tree as well, unless it is a file at one of the
places. -/
theorem exists_node {node : Node} (stands : tree.at? place = some node)
    (kept : tree.IsDirectory place ∨ place ∉ places) :
    ∃ alike, other.at? place = some alike ∧ alike.bytes? = node.bytes? := by
  have kind : other.kind? place = some node.bytes? := by
    obtain directory | outside := kept
    · have same := (isDirectory_iff_kind? other place).mp ((agree.directories place).mpr directory)
      have here := (isDirectory_iff_kind? tree place).mp directory
      rw [kind?, stands] at here
      rw [same]
      exact here.symm
    · rw [agree.elsewhere outside, kind?, stands, Option.map_some]
  exact Option.map_eq_some_iff.mp kind

theorem leadsTo (leads : LeadsTo tree place name last)
    (kept : tree.IsDirectory last ∨ last ∉ places) : LeadsTo other place name last := by
  cases leads with
  | current same directory => exact .current same ((agree.directories _).mpr directory)
  | parent up directory => exact .parent up ((agree.directories _).mpr directory)
  | entry plain short found =>
    obtain ⟨alike, foundToo, _⟩ := agree.exists_node found kept
    exact .entry plain short foundToo

/-- Only a file ends at one of the places, since every name on the way leaves a directory. -/
theorem leads (arrives : Leads tree place names last)
    (kept : tree.IsDirectory last ∨ last ∉ places) : Leads other place names last := by
  induction arrives with
  | here => exact .here _
  | step first onward inductionHypothesis =>
    refine .step (agree.leadsTo first ?_) (inductionHypothesis kept)
    cases onward with
    | here => exact kept
    | step another => exact .inl another.isDirectory

theorem resolves {path : Path} {node : Node} (resolves : tree.Resolves path node)
    (outside : path.file tree.here ∉ places) :
    ∃ alike, other.Resolves path alike ∧ alike.bytes? = node.bytes? := by
  obtain ⟨speakable, ⟨last, leads, stands⟩, unslashed⟩ := resolves
  obtain rfl := leads.eq_file
  obtain ⟨alike, standsToo, same⟩ := agree.exists_node stands (.inr outside)
  have leadsToo := agree.leads leads (.inr outside)
  rw [← origin_congr agree.here] at leadsToo
  refine ⟨alike, ⟨speakable, ⟨_, leadsToo, standsToo⟩, fun slash => ?_⟩, same⟩
  obtain ⟨entries, rfl⟩ := unslashed slash
  cases alike with
  | file bytes => cases same
  | directory inside => exact ⟨inside, rfl⟩

theorem content?_eq {path : Path} (outside : path.file tree.here ∉ places) :
    other.content? path = tree.content? path := by
  have outsideToo : path.file other.here ∉ places := by rwa [agree.here]
  refine Option.ext fun bytes => ?_
  rw [content?_eq_some_iff, content?_eq_some_iff]
  constructor
  · rintro ⟨node, resolves, rfl⟩
    exact agree.symm.resolves resolves outsideToo
  · rintro ⟨node, resolves, rfl⟩
    exact agree.resolves resolves outside

end

end AgreeOutside

/-! ## Changes of one entry -/

namespace Node

theorem lookup_cons_eq (entry : String × Node) (entries : List (String × Node)) (key : String) :
    (entry :: entries).lookup key = if key = entry.1 then some entry.2 else entries.lookup key := by
  obtain ⟨first, node⟩ := entry
  rw [List.lookup_cons]
  by_cases same : key = first
  · simp [same]
  · have other : (key == first) = false := by simpa using same
    simp [same, other]

theorem lookup_change (alter : Node → Node) (entries : List (String × Node)) (name key : String) :
    (entries.map fun entry => if entry.1 = name then (name, alter entry.2) else entry).lookup key =
      if key = name then (entries.lookup name).map alter else entries.lookup key := by
  induction entries with
  | nil => simp
  | cons entry rest inductionHypothesis =>
    rw [List.map_cons, lookup_cons_eq, lookup_cons_eq, lookup_cons_eq, inductionHypothesis]
    by_cases first : entry.1 = name
    · subst first
      by_cases sought : key = entry.1
      · simp [sought]
      · simp [sought]
    · by_cases sought : key = name
      · subst sought
        simp [first, Ne.symm first]
      · simp [first, sought]

theorem lookup_filter_ne (entries : List (String × Node)) (name key : String) :
    (entries.filter fun entry => entry.1 ≠ name).lookup key =
      if key = name then none else entries.lookup key := by
  induction entries with
  | nil => simp
  | cons entry rest inductionHypothesis =>
    by_cases first : entry.1 = name
    · rw [List.filter_cons_of_neg (by simpa using first), inductionHypothesis, lookup_cons_eq, first]
      by_cases sought : key = name
      · simp [sought]
      · simp [sought]
    · rw [List.filter_cons_of_pos (by simpa using first), lookup_cons_eq, lookup_cons_eq,
        inductionHypothesis]
      by_cases sought : key = name
      · subst sought
        simp [Ne.symm first]
      · simp [sought]

theorem at?_change_append (alter : Node → Node) (node : Node) (around inside : List String) :
    (node.change alter around).at? (around ++ inside) =
      ((node.at? around).map alter).bind fun changed => changed.at? inside := by
  induction around generalizing node with
  | nil => cases node <;> rfl
  | cons name rest inductionHypothesis =>
    cases node with
    | file bytes => rfl
    | directory entries =>
      rw [List.cons_append, change, at?, at?, lookup_change (fun child => child.change alter rest),
        if_pos rfl]
      cases entries.lookup name with
      | none => rfl
      | some child => exact inductionHypothesis child

/-- A change leaves everything in place that it is not made to, up to the entries of directories. -/
theorem bytes?_at?_change {alter : Node → Node} {around place : List String}
    (beside : ¬ around <+: place) (node : Node) :
    ((node.change alter around).at? place).map bytes? = (node.at? place).map bytes? := by
  induction around generalizing node place with
  | nil => exact absurd List.nil_prefix beside
  | cons name rest inductionHypothesis =>
    cases node with
    | file bytes => rfl
    | directory entries =>
      cases place with
      | nil => rfl
      | cons first others =>
        rw [change, at?, at?, lookup_change fun child => child.change alter rest]
        by_cases same : first = name
        · subst same
          have besideRest : ¬ rest <+: others := by simpa using beside
          rw [if_pos rfl]
          cases entries.lookup first with
          | none => rfl
          | some child => exact inductionHypothesis besideRest child
        · rw [if_neg same]

theorem at?_withEntry (child : Option Node) (name : String) (entries : List (String × Node))
    (first : String) (rest : List String) :
    ((directory entries).withEntry child name).at? (first :: rest) =
      if first = name then child.bind fun node => node.at? rest
      else (directory entries).at? (first :: rest) := by
  rw [withEntry, at?, at?, List.lookup_append, lookup_filter_ne]
  by_cases same : first = name
  · subst same
    cases child <;> simp
  · cases child with
    | none => simp [same]
    | some node => simp [same, lookup_cons_eq]

end Node

/-- A name in a directory that a file may go by: no directory has it. -/
structure IsFree (tree : FileTree) (around : List String) (name : String) : Prop where
  plain : IsPlain name
  short : name.utf8ByteSize ≤ nameLimit
  directory : tree.IsDirectory around
  entry : ¬ tree.IsDirectory (around ++ [name])

/-- The root with a file of a name in a directory, or with nothing of that name. -/
def rootWith (tree : FileTree) (around : List String) (name : String) (bytes? : Option (List UInt8)) :
    Node :=
  tree.root.change (Node.withEntry (bytes?.map .file) name) around

namespace IsFree

variable {tree : FileTree} {around place : List String} {name : String}
  (free : IsFree tree around name) (bytes? : Option (List UInt8))
include free

theorem at?_rootWith (inside : List String) :
    (tree.rootWith around name bytes?).at? (around ++ name :: inside) =
      (bytes?.map Node.file).bind fun node => node.at? inside := by
  obtain ⟨entries, stands⟩ := free.directory
  rw [rootWith, Node.at?_change_append, ← at?, stands, Option.map_some, Option.bind_some,
    Node.at?_withEntry, if_pos rfl]

theorem at?_behind (first : String) (rest : List String) :
    tree.at? (around ++ name :: first :: rest) = none := by
  have split : around ++ name :: first :: rest = (around ++ [name]) ++ first :: rest := by simp
  rw [split, at?, Node.at?_append, ← at?]
  cases stands : tree.at? (around ++ [name]) with
  | none => rfl
  | some node =>
    cases node with
    | file bytes => rfl
    | directory entries => exact absurd ⟨entries, stands⟩ free.entry

theorem kind_rootWith (elsewhere : place ≠ around ++ [name]) :
    ((tree.rootWith around name bytes?).at? place).map Node.bytes? = tree.kind? place := by
  by_cases below : around <+: place
  · obtain ⟨inside, rfl⟩ := below
    obtain ⟨entries, stands⟩ := free.directory
    cases inside with
    | nil =>
      rw [rootWith, Node.at?_change_append, kind?, List.append_nil, ← at?, stands]
      rfl
    | cons first rest =>
      by_cases same : first = name
      · subst same
        cases rest with
        | nil => exact absurd rfl elsewhere
        | cons second others =>
          -- A file has nothing behind it, neither the new one nor what it takes the place of.
          rw [free.at?_rootWith bytes?, kind?, free.at?_behind]
          cases bytes? <;> rfl
      · rw [rootWith, Node.at?_change_append, kind?, at?, Node.at?_append, ← at?, stands,
          Option.map_some, Option.bind_some, Option.bind_some, Node.at?_withEntry, if_neg same]
  · exact Node.bytes?_at?_change below tree.root

theorem directory_rootWith_iff (place : List String) :
    ((tree.rootWith around name bytes?).at? place).map Node.bytes? = some none ↔
      tree.IsDirectory place := by
  by_cases same : place = around ++ [name]
  · subst same
    rw [free.at?_rootWith bytes? []]
    refine iff_of_false ?_ free.entry
    cases bytes? <;> simp [Node.at?, Node.bytes?]
  · rw [free.kind_rootWith bytes? same, isDirectory_iff_kind?]

/-- The working directory outlives the change. -/
theorem withRoot_rootWith :
    (tree.withRoot (tree.rootWith around name bytes?)).root = tree.rootWith around name bytes? ∧
      (tree.withRoot (tree.rootWith around name bytes?)).here = tree.here := by
  have remains := (free.directory_rootWith_iff bytes? tree.here).mpr tree.isDirectory_here
  obtain ⟨node, stands, directory⟩ := Option.map_eq_some_iff.mp remains
  have kept : ((tree.rootWith around name bytes?).at? tree.here).any Node.isDirectory = true := by
    rw [stands]
    cases node with
    | file bytes => cases directory
    | directory entries => rfl
  rw [withRoot, dif_pos kept]
  exact ⟨rfl, rfl⟩

theorem agreeOutside : AgreeOutside [around ++ [name]] tree
    (tree.withRoot (tree.rootWith around name bytes?)) := by
  obtain ⟨root, here⟩ := free.withRoot_rootWith bytes?
  refine ⟨here, fun place => ?_, fun {place} elsewhere => ?_⟩
  · rw [isDirectory_iff_kind?, kind?, at?, root]
    exact free.directory_rootWith_iff bytes? place
  · rw [kind?, at?, root]
    exact free.kind_rootWith bytes? (List.ne_of_not_mem_cons elsewhere)

end IsFree

/-! ## Files that are written and removed -/

variable {tree : FileTree} {path : Path} {around : List String} {name : String}

theorem file_eq_append {front : List String} (split : steps path = front ++ [name])
    (arrives : Leads tree (tree.origin path) front around) (plain : IsPlain name) :
    path.file tree.here = around ++ [name] := by
  have named : "" ∉ front ++ [name] := by
    rw [← split]
    simp [steps]
  rw [List.mem_append, List.mem_singleton, not_or] at named
  have walked : path.file tree.here = (steps path).foldl Path.walk (tree.origin path) :=
    (Path.foldl_walk_filter (tree.origin path) path.names).symm
  rw [walked, split, List.foldl_append, ← arrives.eq_foldl_walk named.1, List.foldl_cons,
    List.foldl_nil, Path.walk, if_neg (not_or.mpr ⟨Ne.symm named.2, plain.1⟩), if_neg plain.2]

/-- If a path leads nowhere for want of an entry, though the names in front of the last one lead on, it
is the last one that is missing. -/
theorem isFree_of_missing {front : List String} (split : steps path = front ++ [name])
    (arrives : Leads tree (tree.origin path) front around) (missing : tree.find path = .error .notFound) :
    IsFree tree around name := by
  have dangles := find_spec tree path
  rw [missing] at dangles
  cases dangles with
  | empty empty =>
    have nothing : steps path = [] := by
      simp [steps, Path.names, empty, Path.splitAtSlashes]
    simp [nothing] at split
  | @blocked first back there blocking _ splitToo arrivesToo blocks =>
    rw [split] at splitToo
    -- The missing name is the last one, since all names in front of that lead on.
    cases back using List.reverseRecOn with
    | nil =>
      obtain ⟨rfl, same⟩ := List.append_inj' splitToo rfl
      cases same
      obtain rfl := arrives.unique arrivesToo
      cases blocks with
      | missing directory plain short nothing =>
        refine ⟨plain, short, directory, ?_⟩
        rintro ⟨entries, stands⟩
        rw [nothing] at stands
        cases stands
    | append_singleton others last _ =>
      rw [← List.cons_append, ← List.append_assoc] at splitToo
      obtain ⟨rfl, _⟩ := List.append_inj' splitToo rfl
      exact absurd blocks (arrives.not_blocks arrivesToo)

theorem isFree_of_file {front : List String} (split : steps path = front ++ [name])
    (arrives : Leads tree (tree.origin path) front around) {bytes : List UInt8}
    (found : tree.find path = .ok (.file bytes)) : IsFree tree around name := by
  obtain ⟨_, ⟨last, leads, stands⟩, _⟩ := (find_eq_ok_iff path _).mp found
  rw [split] at leads
  obtain ⟨there, arrivesToo, leadsTo⟩ := leads.exists_of_append_singleton
  obtain rfl := arrives.unique arrivesToo
  cases leadsTo with
  | current _ directory => exact absurd stands directory.not_file
  | parent _ directory => exact absurd stands directory.dropLast.not_file
  | entry plain short found =>
    exact ⟨plain, short, isDirectory_of_entry found, fun directory => directory.not_file stands⟩

/-- A path to a file, or one that leads nowhere for want of an entry. -/
def IsFileOrMissing (tree : FileTree) (path : Path) : Prop :=
  (∃ bytes, tree.find path = .ok (.file bytes)) ∨ tree.find path = .error .notFound

theorem IsFileOrMissing.isFree {front : List String} (found : tree.IsFileOrMissing path)
    (split : steps path = front ++ [name]) (arrives : Leads tree (tree.origin path) front around) :
    IsFree tree around name ∧ path.file tree.here = around ++ [name] := by
  have free : IsFree tree around name := by
    obtain ⟨bytes, file⟩ | missing := found
    · exact isFree_of_file split arrives file
    · exact isFree_of_missing split arrives missing
  exact ⟨free, file_eq_append split arrives free.plain⟩

theorem IsFileOrMissing.isSpeakable (found : tree.IsFileOrMissing path) (named : steps path ≠ []) :
    IsSpeakable path := by
  have blamed : ∀ fault, tree.find path = .error fault → fault = .notFound := by
    intro fault failed
    obtain ⟨bytes, file⟩ | missing := found
    · rw [failed] at file
      cases file
    · exact (Except.error.inj (missing.symm.trans failed)).symm
  have clean : '\x00' ∉ path.text.toList := by
    intro unclean
    have failed : tree.find path = .error .invalidName := by
      rw [find, if_pos unclean]
      rfl
    cases blamed _ failed
  refine ⟨clean, Nat.not_lt.mp fun long => ?_, fun empty => named ?_⟩
  · have failed : tree.find path = .error .nameTooLong := by
      rw [find, if_neg clean, if_pos long]
      rfl
    cases blamed _ failed
  · simp [steps, Path.names, empty, Path.splitAtSlashes]

theorem changeEntry_eq {front : List String} (split : steps path = front ++ [name])
    (arrives : Leads tree (tree.origin path) front around) (bytes? : Option (List UInt8)) :
    tree.changeEntry (tree.origin path) (steps path) (bytes?.map .file) =
      tree.withRoot (tree.rootWith around name bytes?) := by
  have followed := follow_spec (tree.isDirectory_origin path).choose_spec front
  rw [changeEntry, split, List.dropLast_concat, List.getLast?_concat]
  cases reached : tree.follow (tree.origin path) front with
  | error fault =>
    rw [reached] at followed
    obtain ⟨_, _, _, _, rfl, arrivesToo, blocks⟩ := followed
    exact absurd blocks (arrives.not_blocks arrivesToo)
  | ok last =>
    rw [reached] at followed
    obtain rfl := arrives.unique followed.1
    rfl

/-- The change of the entry that a path names is a change of one file, if it changes anything. -/
theorem agreeOutside_changeEntry (found : tree.IsFileOrMissing path) (bytes? : Option (List UInt8)) :
    AgreeOutside [path.file tree.here] tree
      (tree.changeEntry (tree.origin path) (steps path) (bytes?.map .file)) := by
  cases split : steps path using List.reverseRecOn with
  | nil => exact .refl _ tree
  | append_singleton front name _ =>
    have followed := follow_spec (tree.isDirectory_origin path).choose_spec front
    cases reached : tree.follow (tree.origin path) front with
    | error fault =>
      rw [changeEntry, List.dropLast_concat, reached]
      exact .refl _ tree
    | ok around =>
      rw [reached] at followed
      obtain ⟨free, file⟩ := found.isFree split followed.1
      rw [← split, changeEntry_eq split followed.1, file]
      exact free.agreeOutside bytes?

/-- Writing a file changes nothing but this file. -/
theorem agreeOutside_write (tree : FileTree) (path : Path) (bytes : List UInt8) :
    AgreeOutside [path.file tree.here] tree (tree.write path bytes) := by
  rw [write]
  split
  · next file found =>
    split
    · exact .refl _ tree
    · exact agreeOutside_changeEntry (.inl ⟨file, found⟩) (some bytes)
  · next missing =>
    split
    · exact .refl _ tree
    · exact agreeOutside_changeEntry (.inr missing) (some bytes)
  · exact .refl _ tree

/-- Removing a file changes nothing but this file. -/
theorem agreeOutside_remove (tree : FileTree) (path : Path) :
    AgreeOutside [path.file tree.here] tree (tree.remove path) := by
  rw [remove]
  split
  · next file found => exact agreeOutside_changeEntry (.inl ⟨file, found⟩) none
  · exact .refl _ tree

/-- What is written to a file can be found there. -/
theorem find_write {front : List String} (split : steps path = front ++ [name])
    (arrives : Leads tree (tree.origin path) front around) (found : tree.IsFileOrMissing path)
    (unslashed : endsInSlash path = false) (bytes : List UInt8) :
    (tree.write path bytes).find path = .ok (.file bytes) := by
  obtain ⟨free, file⟩ := found.isFree split arrives
  have written : tree.write path bytes = tree.withRoot (tree.rootWith around name (some bytes)) := by
    have changed := changeEntry_eq split arrives (some bytes)
    have slash : ¬ endsInSlash path = true := by simp [unslashed]
    obtain ⟨old, present⟩ | missing := found
    · rw [write, present]
      simp only [if_neg slash]
      exact changed
    · rw [write, missing]
      simp only [if_neg slash]
      exact changed
  have agree := free.agreeOutside (some bytes)
  obtain ⟨root, here⟩ := free.withRoot_rootWith (some bytes)
  rw [← written] at agree root here
  have stands : (tree.write path bytes).at? (around ++ [name]) = some (.file bytes) := by
    rw [at?, root]
    exact free.at?_rootWith (some bytes) []
  rw [find_eq_ok_iff]
  refine ⟨found.isSpeakable (by simp [split]), ⟨around ++ [name], ?_, stands⟩, fun slash => ?_⟩
  · rw [origin_congr here, split]
    exact (agree.leads arrives (.inl free.directory)).append
      (.step (.entry free.plain free.short stands) (.here _))
  · rw [unslashed] at slash
    cases slash

/-- A path to a file leads nowhere once the file is removed. -/
theorem content?_remove {bytes : List UInt8} (found : tree.find path = .ok (.file bytes)) :
    (tree.remove path).content? path = none := by
  have removed : tree.remove path = tree.changeEntry (tree.origin path) (steps path) none := by
    rw [remove, found]
  obtain ⟨_, ⟨last, leads, stands⟩, _⟩ := (find_eq_ok_iff path _).mp found
  cases split : steps path using List.reverseRecOn with
  | nil =>
    rw [split] at leads
    cases leads
    exact absurd stands (tree.isDirectory_origin path).not_file
  | append_singleton front name _ =>
    rw [split] at leads
    obtain ⟨around, arrives, _⟩ := leads.exists_of_append_singleton
    obtain ⟨free, file⟩ := IsFileOrMissing.isFree (.inl ⟨bytes, found⟩) split arrives
    obtain ⟨root, here⟩ := free.withRoot_rootWith none
    have changed := removed.trans (changeEntry_eq split arrives none)
    rw [← changed] at root here
    cases read : (tree.remove path).content? path with
    | none => rfl
    | some kind =>
      -- What the path still leads to would stand where the file has been.
      obtain ⟨node, ⟨_, ⟨other, leadsToo, standsToo⟩, _⟩, _⟩ := (content?_eq_some_iff _ _ _).mp read
      have nothing := free.at?_rootWith none []
      rw [leadsToo.eq_file, here, file, at?, root, nothing] at standsToo
      cases standsToo

end LoadReport.FileTree
