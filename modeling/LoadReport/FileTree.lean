import LoadReport.Failure

/-! # File trees

The files from the root on, with the working directory among them, and where paths lead. A path is
followed name by name, and the first name that leads nowhere decides what is wrong with it. A place is
given by the names on the way to it from the root. -/

namespace LoadReport

/-- A file with its bytes, or a directory with named entries. -/
inductive FileTree.Node where
  | file (bytes : List UInt8)
  | directory (entries : List (String × Node))

namespace FileTree.Node

def empty : Node :=
  directory []

def isDirectory : Node → Bool
  | file _ => false
  | directory _ => true

/-- What stands at the end of names, if anything does. -/
def at? : Node → List String → Option Node
  | node, [] => some node
  | file _, _ :: _ => none
  | directory entries, name :: rest => (entries.lookup name).bind fun child => child.at? rest

/-- The node with a change to what stands at the end of names, if anything does. -/
def change (alter : Node → Node) : Node → List String → Node
  | node, [] => alter node
  | file bytes, _ :: _ => file bytes
  | directory entries, name :: rest =>
    directory (entries.map fun entry =>
      if entry.1 = name then (name, entry.2.change alter rest) else entry)

/-- A directory in which another node goes by a name, or none. -/
def withEntry (child : Option Node) (name : String) : Node → Node
  | file bytes => file bytes
  | directory entries =>
    directory (child.toList.map (name, ·) ++ entries.filter fun entry => entry.1 ≠ name)

end FileTree.Node

/-- All files, seen from a working directory. -/
structure FileTree where
  root : FileTree.Node
  /-- The place of the working directory. -/
  here : List String
  isDirectory : (root.at? here).any FileTree.Node.isDirectory = true

namespace FileTree

/-- Entries in a working directory right below the root, and nothing else. -/
def holding (entries : List (String × Node)) : FileTree where
  root := .directory [("work", .directory entries)]
  here := ["work"]
  isDirectory := by simp [Node.at?, Node.isDirectory]

def empty : FileTree :=
  holding []

/-- Names with more bytes than this are refused. -/
def nameLimit : Nat := 255

/-- Paths with more bytes than this are refused. -/
def pathLimit : Nat := 4095

/-- What stands at a place, if anything does. -/
def at? (tree : FileTree) (place : List String) : Option Node :=
  tree.root.at? place

/-- The place that one more name leads to. Only a directory can be left by a name, and the root is the
parent of itself. -/
def enter (tree : FileTree) (place : List String) (name : String) :
    Except FileFault (List String) :=
  match tree.at? place with
  | none => .error .notFound
  | some (.file _) => .error .notADirectory
  | some (.directory entries) =>
    if name = "." then .ok place
    else if name = ".." then .ok place.dropLast
    else if nameLimit < name.utf8ByteSize then .error .nameTooLong
    else if (entries.lookup name).isSome then .ok (place ++ [name])
    else .error .notFound

/-- The place that several names lead to, one after the other. -/
def follow (tree : FileTree) (place : List String) : List String → Except FileFault (List String)
  | [] => .ok place
  | name :: rest => do
    let next ← tree.enter place name
    tree.follow next rest

/-- The names of a path that lead somewhere: empty ones do not. -/
def steps (path : Path) : List String :=
  path.names.filter fun name => name ≠ ""

/-- The place that a path begins in. -/
def origin (tree : FileTree) (path : Path) : List String :=
  if path.isAbsolute then [] else tree.here

/-- Whether a path ends in a slash, which only a directory may bear. -/
def endsInSlash (path : Path) : Bool :=
  path.text.toList.getLast? = some '/'

def find (tree : FileTree) (path : Path) : Except FileFault Node := do
  if '\x00' ∈ path.text.toList then throw .invalidName
  if pathLimit < path.text.utf8ByteSize then throw .nameTooLong
  if path.text = "" then throw .notFound
  let place ← tree.follow (tree.origin path) (steps path)
  match tree.at? place with
  | none => throw .notFound
  | some (.file bytes) => if endsInSlash path then throw .notADirectory else return .file bytes
  | some (.directory entries) => return .directory entries

/-- Whether a path leads to a file or a directory. -/
def contains (tree : FileTree) (path : Path) : Bool :=
  (tree.find path).isOk

/-- Other files around the same working directory, if it is one among them. -/
def withRoot (tree : FileTree) (root : Node) : FileTree :=
  if isDirectory : (root.at? tree.here).any Node.isDirectory = true then
    { root, here := tree.here, isDirectory }
  else tree

/-- The tree in which names lead from a place to another node, or to none. Nothing changes if there
is no directory around it. -/
def changeEntry (tree : FileTree) (place names : List String) (child : Option Node) : FileTree :=
  match tree.follow place names.dropLast, names.getLast? with
  | .ok around, some name => tree.withRoot (tree.root.change (Node.withEntry child name) around)
  | _, _ => tree

/-- The tree with the bytes in the file at a path, which is created if it is missing. Nothing
changes where there can be no file. -/
def write (tree : FileTree) (path : Path) (bytes : List UInt8) : FileTree :=
  match tree.find path with
  | .ok (.file _) | .error .notFound =>
    if endsInSlash path then tree
    else tree.changeEntry (tree.origin path) (steps path) (some (.file bytes))
  | _ => tree

/-- The tree with an empty directory where names lead from a place on, if nothing stands there but
the directory around it does. -/
def addDirectory (tree : FileTree) (place names : List String) : FileTree :=
  match tree.follow place names with
  | .error .notFound => tree.changeEntry place names (some .empty)
  | _ => tree

/-- The tree with a directory at a path: every name on the way that leads nowhere becomes an empty
directory before the next name is followed. Nothing changes where something stands already. -/
def makeDirectory (tree : FileTree) (path : Path) : FileTree :=
  match tree.find path with
  | .error .notFound =>
    let names := steps path
    (List.range names.length).foldl
      (fun grown count => grown.addDirectory (tree.origin path) (names.take (count + 1))) tree
  | _ => tree

/-- The tree without the file at a path. -/
def remove (tree : FileTree) (path : Path) : FileTree :=
  match tree.find path with
  | .ok (.file _) => tree.changeEntry (tree.origin path) (steps path) none
  | _ => tree

end FileTree

end LoadReport
