import LoadReport.Json.Numeral

/-! # Tokens

The smallest parts of a results file, and the texts that its strings stand for. -/

namespace LoadReport.Json

/-- A part of a string: a byte, or a number of 16 bits that an escape gives. -/
inductive StringPart where
  | byte (value : UInt8)
  | unit (value : Nat)
deriving DecidableEq

namespace StringPart

/-- The numbers that only as the first half of a pair stand for a character. -/
def isLeading (value : Nat) : Bool :=
  0xD800 ≤ value && value < 0xDC00

/-- The numbers that only as the second half of a pair stand for a character. -/
def isTrailing (value : Nat) : Bool :=
  0xDC00 ≤ value && value < 0xE000

/-- The character that a pair of halves stands for. -/
def pairCharacter (leading trailing : Nat) : Char :=
  Char.ofNat (0x10000 + (leading - 0xD800) * 0x400 + (trailing - 0xDC00))

/-- The bytes that the parts of a string stand for; nothing if a half has no partner. -/
def bytes? : List StringPart → Option (List UInt8)
  | [] => some []
  | byte value :: rest => (value :: ·) <$> bytes? rest
  | [unit value] =>
    if isLeading value || isTrailing value then none
    else some (String.utf8EncodeChar (Char.ofNat value))
  | unit value :: byte next :: rest =>
    if isLeading value || isTrailing value then none
    else (String.utf8EncodeChar (Char.ofNat value) ++ next :: ·) <$> bytes? rest
  | unit value :: unit next :: rest =>
    if isLeading value then
      if isTrailing next then
        (String.utf8EncodeChar (pairCharacter value next) ++ ·) <$> bytes? rest
      else none
    else if isTrailing value then none
    else (String.utf8EncodeChar (Char.ofNat value) ++ ·) <$> bytes? (unit next :: rest)

/-- The text of a string; nothing if its bytes are no text. -/
def text? (parts : List StringPart) : Option String :=
  (bytes? parts).bind fun bytes => String.fromUTF8? bytes.toByteArray

end StringPart

/-- The tokens of a results file. -/
inductive Token where
  | openObject
  | closeObject
  | openArray
  | closeArray
  | comma
  | colon
  /-- A string, whose text is missing if its bytes or its escapes stand for none. -/
  | string (text : Option String)
  | number (numeral : Numeral)
  | null
  | boolean (value : Bool)
  /-- The place from which on the bytes are no tokens. -/
  | invalid
deriving DecidableEq

end LoadReport.Json
