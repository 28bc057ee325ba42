import LoadReport.Path

/-!
# Spellings of paths

A path names what stands between its slashes. A slash parts the names in front of it from those behind
it, so that a slash or a `.` more, behind the first name, adds no component.

* `names_append` — the names of a path that is put together.
* `components_of_respelled` — spellings that come to the same components.
* `file` — the place that a path names where there are no links.
-/

namespace LoadReport.Path

theorem splitAtSlashes_ne_nil (characters : List Char) : splitAtSlashes characters ≠ [] := by
  cases characters with
  | nil => exact List.cons_ne_nil _ _
  | cons character rest =>
    rw [splitAtSlashes]
    split
    · exact List.cons_ne_nil _ _
    · split
      · exact List.cons_ne_nil _ _
      · exact List.cons_ne_nil _ _

theorem splitAtSlashes_append (front back : List Char) :
    splitAtSlashes (front ++ '/' :: back) = splitAtSlashes front ++ splitAtSlashes back := by
  induction front with
  | nil => rfl
  | cons character rest inductionHypothesis =>
    rw [List.cons_append, splitAtSlashes, splitAtSlashes, inductionHypothesis]
    split
    · rfl
    · cases parts : splitAtSlashes rest with
      | nil => exact absurd parts (splitAtSlashes_ne_nil rest)
      | cons part others => rfl

theorem names_ne_nil (path : Path) : path.names ≠ [] := by
  simp [names, splitAtSlashes_ne_nil]

theorem names_append (front back : String) :
    names ⟨front ++ "/" ++ back⟩ = names ⟨front⟩ ++ names ⟨back⟩ := by
  simp [names, splitAtSlashes_append]

/-- What stands behind a slash does not make a path absolute. -/
theorem isAbsolute_append (front back : String) :
    isAbsolute ⟨front ++ "/" ++ back⟩ = isAbsolute ⟨front ++ "/"⟩ := by
  cases characters : front.toList with
  | nil => simp [isAbsolute, characters]
  | cons character rest => simp [isAbsolute, characters]

/-- A path has the components of another that begins alike and has the same names that say something. -/
theorem components_congr {first second : Path} (root : first.isAbsolute = second.isAbsolute)
    (begins : first.names.head? = second.names.head?)
    (telling : (first.names.filter fun name => name ≠ "" && name ≠ ".") =
      second.names.filter fun name => name ≠ "" && name ≠ ".") :
    first.components = second.components := by
  rw [components, components, root, begins, telling]

/-- Another spelling of a path, by a slash or a `.` more. -/
inductive Respelled : Path → Path → Prop where
  | slash (front back : String) : Respelled ⟨front ++ "/" ++ back⟩ ⟨front ++ "//" ++ back⟩
  | current (front back : String) : Respelled ⟨front ++ "/" ++ back⟩ ⟨front ++ "/./" ++ back⟩
  | trailing {front : String} (named : front ≠ "") : Respelled ⟨front⟩ ⟨front ++ "/"⟩

/-- A name that says nothing may stand between any two others. -/
theorem components_of_idle {name : String} (idle : name = "" ∨ name = ".") (front back : String) :
    components ⟨front ++ "/" ++ back⟩ = components ⟨front ++ "/" ++ (name ++ "/" ++ back)⟩ := by
  have alone : names ⟨name⟩ = [name] := by
    obtain rfl | rfl := idle
    · rfl
    · rfl
  refine components_congr ?_ ?_ ?_
  · rw [isAbsolute_append, isAbsolute_append]
  -- The first name is one of those in front of the slash, which there always are.
  · rw [names_append, names_append, List.head?_append, List.head?_append]
    cases first : names ⟨front⟩ with
    | nil => exact absurd first (names_ne_nil _)
    | cons head rest => rfl
  · rw [names_append, names_append, names_append, alone, List.filter_append, List.filter_append,
      List.filter_append]
    obtain rfl | rfl := idle
    · rfl
    · rfl

theorem components_of_respelled {first second : Path} (respelled : Respelled first second) :
    first.components = second.components := by
  cases respelled with
  | slash front back =>
    have between : front ++ "//" ++ back = front ++ "/" ++ ("" ++ "/" ++ back) := by
      rw [show "//" = "/" ++ ("" ++ "/") from rfl]
      simp only [String.append_assoc]
    rw [between]
    exact components_of_idle (.inl rfl) front back
  | current front back =>
    have between : front ++ "/./" ++ back = front ++ "/" ++ ("." ++ "/" ++ back) := by
      rw [show "/./" = "/" ++ ("." ++ "/") from rfl]
      simp only [String.append_assoc]
    rw [between]
    exact components_of_idle (.inr rfl) front back
  | @trailing front named =>
    have last : names ⟨front ++ "/"⟩ = names ⟨front⟩ ++ [""] := by
      rw [← String.append_empty (s := front ++ "/"), names_append]
      rfl
    refine components_congr ?_ ?_ ?_
    · cases characters : front.toList with
      | nil => exact absurd (String.toList_eq_nil_iff.mp characters) named
      | cons character rest => simp [isAbsolute, characters]
    · rw [last]
      cases first : names ⟨front⟩ with
      | nil => exact absurd first (names_ne_nil _)
      | cons head rest => rfl
    · rw [last, List.filter_append]
      simp

/-! ## Places -/

/-- Where one more name of a path leads, as the names from the root. -/
def walk (place : List String) (name : String) : List String :=
  if name = "" ∨ name = "." then place
  else if name = ".." then place.dropLast
  else place ++ [name]

/-- The file that a path names where there are no links, seen from a working directory. -/
def file (working : List String) (path : Path) : List String :=
  path.names.foldl walk (if path.isAbsolute then [] else working)

/-- Empty names lead nowhere else. -/
theorem foldl_walk_filter (place names : List String) :
    (names.filter fun name => name ≠ "").foldl walk place = names.foldl walk place := by
  induction names generalizing place with
  | nil => rfl
  | cons name rest inductionHypothesis =>
    by_cases empty : name = ""
    · rw [List.filter_cons_of_neg (by simpa using empty), List.foldl_cons, inductionHypothesis, walk,
        if_pos (.inl empty)]
    · rw [List.filter_cons_of_pos (by simpa using empty), List.foldl_cons, List.foldl_cons,
        inductionHypothesis]

end LoadReport.Path
