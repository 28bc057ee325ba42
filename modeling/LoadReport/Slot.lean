/-! # Slots of bars

Bars of several metrics share the room around the centre of their scenario. The rule is stated over
any numbers: a layout follows it in double precision, and read over exact numbers it says that the
bars fill their slot without gaps. -/

namespace LoadReport.Slot

variable {α : Type} [Add α] [Sub α] [Mul α] [Div α] [NatCast α] [OfScientific α]

/-- The part of the room between two scenarios that bars take up. -/
def room : α :=
  0.8

/-- The width of each of several bars in a slot. -/
def barWidth (count : Nat) : α :=
  room / (count : α)

/-- How far the bar at an index stands from the centre of the slot: the bars begin half of them to
the left, and each is centred half a bar to the right of where it begins. -/
def barShift (index count : Nat) : α :=
  ((index : α) - (count : α) / ((2 : Nat) : α) + 0.5) * barWidth count

end LoadReport.Slot
