import LoadReport.Binary64.Arithmetic
import LoadReport.Decimal.Fixed

/-! # Formats of value labels

A label format is literal text with conversions: `%f` and `%.Nf` write decimals with a fixed number
of places, `%d` writes the integer part, and `%%` is a percent sign. A specification is read in one
pass from the left, one character at a time, so the first place where reading gets stuck decides
which fault is reported. -/

namespace LoadReport

/-- A part of a label: a character of its own, or a conversion that writes the value. -/
inductive LabelFormat.Piece where
  | literal (character : Char)
  | fixed (places : Nat)
  | integer
deriving DecidableEq

/-- A specification together with the pieces that labels are made of. -/
structure LabelFormat where
  specification : String
  pieces : List LabelFormat.Piece
deriving DecidableEq

namespace LabelFormat

inductive Fault where
  | unsupportedConversion
  | placesTooLarge
  | noConversion
deriving DecidableEq

/-- Where in a specification the reader stands. -/
inductive Position where
  | text
  | afterPercent
  /-- Behind `%.` and the digits with the given value, if there were any. -/
  | places (value : Option Nat)
deriving DecidableEq

/-- The first number of places that no specification can ask for. -/
def placesLimit : Nat := twoTo 64

/-- The number of places that a bare `%f` writes. -/
def defaultPlaces : Nat := 6

/-- The largest number of places that can be written out. -/
def writablePlaces : Nat := 65535

/-- The value of a run of digits with one more digit. -/
def appendDigit (value : Option Nat) (digit : Char) : Nat :=
  value.getD 0 * 10 + (digit.toNat - '0'.toNat)

/-- The pieces of the rest of a specification. -/
def split : Position → List Char → Except Fault (List Piece)
  | .text, [] => .ok []
  | .text, character :: rest =>
    if character = '%' then split .afterPercent rest
    else (.literal character :: ·) <$> split .text rest
  | .afterPercent, [] => .error .unsupportedConversion
  | .afterPercent, character :: rest =>
    if character = '%' then (.literal '%' :: ·) <$> split .text rest
    else if character = 'f' then (.fixed defaultPlaces :: ·) <$> split .text rest
    else if character = 'd' then (.integer :: ·) <$> split .text rest
    else if character = '.' then split (.places none) rest
    else .error .unsupportedConversion
  | .places _, [] => .error .unsupportedConversion
  | .places value, character :: rest =>
    if character.isDigit then split (.places (some (appendDigit value character))) rest
    else
      match value with
      | none => .error .unsupportedConversion
      | some places =>
        if character = 'f' then
          if places < placesLimit then (.fixed places :: ·) <$> split .text rest
          else .error .placesTooLarge
        else .error .unsupportedConversion

namespace Piece

/-- Everything but literal text writes the value. -/
def isConversion : Piece → Bool
  | literal _ => false
  | fixed _ => true
  | integer => true

/-- What a piece contributes to the label of a value; nothing if it asks for more places than can be
written out. -/
def render? (value : Binary64) : Piece → Option String
  | literal character => some (String.singleton character)
  | fixed places => if places ≤ writablePlaces then some (Decimal.fixed places value) else none
  | integer => some (Decimal.integer value.truncate)

end Piece

/-- A label format has to write the value at least once. -/
def parse (specification : String) : Except Fault LabelFormat := do
  let pieces ← split .text specification.toList
  if pieces.any Piece.isConversion then return { specification, pieces }
  else throw .noConversion

/-- The texts of all pieces, one after the other. -/
def renderPieces? (value : Binary64) : List Piece → Option String
  | [] => some ""
  | piece :: rest => do
    let text ← piece.render? value
    let remaining ← renderPieces? value rest
    return text ++ remaining

/-- The texts of pieces follow one another as the pieces do. -/
theorem renderPieces?_append (value : Binary64) (first second : List Piece) :
    renderPieces? value (first ++ second) =
      (renderPieces? value first).bind fun text =>
        (renderPieces? value second).map (text ++ ·) := by
  induction first with
  | nil => simp [renderPieces?]
  | cons piece rest ih =>
    cases rendered : piece.render? value with
    | none => simp [renderPieces?, rendered]
    | some text =>
      cases remaining : renderPieces? value rest with
      | none => simp [renderPieces?, rendered, ih, remaining]
      | some others =>
        cases last : renderPieces? value second with
        | none => simp [renderPieces?, rendered, ih, remaining, last]
        | some ending => simp [renderPieces?, rendered, ih, remaining, last, String.append_assoc]

/-- The label of a value, unless some conversion asks for more places than can be written out. -/
def render? (format : LabelFormat) (value : Binary64) : Option String :=
  renderPieces? value format.pieces

end LabelFormat

end LoadReport
