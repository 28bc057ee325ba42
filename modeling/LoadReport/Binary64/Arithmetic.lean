import LoadReport.Binary64.Basic

/-! # Double-precision arithmetic

Each operation computes the exact result in units and rounds it once to the nearest number, a half
to the even code. An exact zero has the sign that its operands agree on. -/

namespace LoadReport.Binary64

/-- A signed magnitude in units. -/
def signedUnits (negative : Bool) (code : Nat) : Int :=
  if negative then -(units code : Int) else units code

/-- Only the sign changes. -/
protected def neg : Binary64 → Binary64
  | finite negative code => finite (!negative) code
  | infinite negative => infinite (!negative)
  | nan => nan

/-- The rounded sum. Infinities of different signs have none. -/
protected def add : Binary64 → Binary64 → Binary64
  | finite leftSign left, finite rightSign right =>
    let sum := signedUnits leftSign left.val + signedUnits rightSign right.val
    if sum = 0 then ofUnits (leftSign && rightSign) 0 1
    else ofUnits (decide (sum < 0)) sum.natAbs 1
  | infinite leftSign, infinite rightSign =>
    if leftSign = rightSign then infinite leftSign else nan
  | infinite leftSign, finite _ _ => infinite leftSign
  | finite _ _, infinite rightSign => infinite rightSign
  | nan, _ => nan
  | _, nan => nan

/-- The rounded difference. -/
protected def sub (left right : Binary64) : Binary64 :=
  left.add right.neg

/-- The rounded product. Zero times infinity has none. -/
protected def mul : Binary64 → Binary64 → Binary64
  | finite leftSign left, finite rightSign right =>
    ofUnits (leftSign != rightSign) (units left.val * units right.val) unitsPerOne
  | infinite leftSign, infinite rightSign => infinite (leftSign != rightSign)
  | infinite leftSign, finite rightSign right =>
    if right.val = 0 then nan else infinite (leftSign != rightSign)
  | finite leftSign left, infinite rightSign =>
    if left.val = 0 then nan else infinite (leftSign != rightSign)
  | nan, _ => nan
  | _, nan => nan

/-- The rounded quotient. A number that is not zero divided by zero is infinite. -/
protected def div : Binary64 → Binary64 → Binary64
  | finite leftSign left, finite rightSign right =>
    if right.val = 0 then
      if left.val = 0 then nan else infinite (leftSign != rightSign)
    else ofUnits (leftSign != rightSign) (units left.val * unitsPerOne) (units right.val)
  | infinite _, infinite _ => nan
  | infinite leftSign, finite rightSign _ => infinite (leftSign != rightSign)
  | finite leftSign _, infinite rightSign => ofUnits (leftSign != rightSign) 0 1
  | nan, _ => nan
  | _, nan => nan

instance : Neg Binary64 := ⟨Binary64.neg⟩
instance : Add Binary64 := ⟨Binary64.add⟩
instance : Sub Binary64 := ⟨Binary64.sub⟩
instance : Mul Binary64 := ⟨Binary64.mul⟩
instance : Div Binary64 := ⟨Binary64.div⟩

/-- An integer of the given sign and size, held within 64 signed bits. -/
def heldInteger (negative : Bool) (size : Nat) : Int :=
  if negative then -(min size (twoTo 63) : Nat) else (min size (twoTo 63 - 1) : Nat)

/-- The integer next to the number on the way to zero, held within 64 signed bits; the value that
is not a number gives zero. -/
def truncate : Binary64 → Int
  | finite negative code => heldInteger negative (units code.val / unitsPerOne)
  | infinite negative => heldInteger negative (twoTo 63)
  | nan => 0

end LoadReport.Binary64
