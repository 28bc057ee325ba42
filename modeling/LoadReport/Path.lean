/-! # Paths

A path is kept as it was given, because that is how it is shown. Two paths count as the same if they
have the same components. -/

namespace LoadReport

/-- A path as it was given. -/
structure Path where
  text : String
deriving DecidableEq

namespace Path

/-- The parts of a text between its slashes, empty ones included. -/
def splitAtSlashes : List Char → List (List Char)
  | [] => [[]]
  | character :: rest =>
    let parts := splitAtSlashes rest
    if character = '/' then [] :: parts
    else
      match parts with
      | [] => [[character]]
      | part :: others => (character :: part) :: others

/-- The names between the slashes of a path, empty ones included. -/
def names (path : Path) : List String :=
  (splitAtSlashes path.text.toList).map String.ofList

/-- Whether a path begins at the root. -/
def isAbsolute (path : Path) : Bool :=
  path.text.toList.head? = some '/'

/-- What a path is made of. A name may be `..`, which is not worked out here: where it leads depends
on the files. -/
inductive Component where
  | root
  | current
  | named (name : String)
deriving DecidableEq

/-- The components of a path. Empty names and `.` say nothing, except that a relative path which
begins with `.` says that it is relative. -/
def components (path : Path) : List Component :=
  let start :=
    if path.isAbsolute then [Component.root]
    else if path.names.head? = some "." then [Component.current]
    else []
  start ++ (path.names.filter fun name => name ≠ "" && name ≠ ".").map Component.named

/-- Whether two paths have the same components. -/
def same (left right : Path) : Bool :=
  left.components = right.components

end Path

end LoadReport
