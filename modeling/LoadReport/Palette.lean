/-! # Colours

The colours that bars and lines have unless a chart brings its own. A list of colours is used round
and round. -/

namespace LoadReport.Palette

/-- A colour as the drawing library spells it. -/
abbrev Color := String

/-- The first two colours are those of the uniform and the hot-spot workload. -/
def colors : List Color :=
  ["#40826D", "#D9534F", "#3498DB", "#F0AD4E", "#8E44AD", "#7F8C8D"]

/-- The colour at an index of a list used round and round; an empty list has none. -/
def cycle? (choice : List Color) (index : Nat) : Option Color :=
  choice[index % choice.length]?

def color (index : Nat) : Color :=
  colors.get ⟨index % 6, by simp only [colors, List.length_cons, List.length_nil]; omega⟩

/-- As many colours as asked for, in order. -/
def first (count : Nat) : List Color :=
  (List.range count).map color

theorem cycle?_eq_none_iff (choice : List Color) (index : Nat) :
    cycle? choice index = none ↔ choice = [] := by
  cases choice with
  | nil => simp [cycle?]
  | cons color rest =>
    have inside : index % (color :: rest).length < (color :: rest).length :=
      Nat.mod_lt index (Nat.zero_lt_succ rest.length)
    simp only [cycle?, List.getElem?_eq_getElem inside, reduceCtorEq]

end LoadReport.Palette
