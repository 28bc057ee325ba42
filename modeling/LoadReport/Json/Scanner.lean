import LoadReport.Json.Token

/-! # From bytes to tokens

A scanner takes one byte after the other. What has been read of an unfinished token is its state, so
a text can be read in parts: `scan_append` says that the tokens of the whole are those of the first
part followed by those of the rest, read from the state that the first part leads to. At the first
byte that fits nowhere the scanner gives an invalid token and stops. -/

namespace LoadReport.Json.Scanner

/-- Where in a number the scanner stands: behind its sign, behind a leading zero, and so on. -/
inductive NumberPhase where
  | sign
  | zero
  | whole
  | point
  | fraction
  | mark
  | markSign (shrinks : Bool)
  | exponent (shrinks : Bool)
deriving DecidableEq

/-- What has been read of the token that the scanner is in. -/
inductive State where
  | between
  /-- In a string, with the parts read so far in reverse. -/
  | string (parts : List StringPart)
  | escape (parts : List StringPart)
  /-- In an escape by number that needs this many more digits. -/
  | hexadecimal (parts : List StringPart) (missing value : Nat)
  | word (missing : List Char) (token : Token)
  /-- In a number, with the digits of each part read so far in reverse. -/
  | number (phase : NumberPhase) (read : Numeral)
  | stopped
deriving DecidableEq

/-- The bytes that may stand between tokens. -/
def isBlank (character : Char) : Bool :=
  character = ' ' || character = '\t' || character = '\n' || character = '\r'

def digitValue (character : Char) : Nat :=
  character.toNat - '0'.toNat

/-- The value of a hexadecimal digit in either case. -/
def hexadecimalValue? (character : Char) : Option Nat :=
  if character.isDigit then some (digitValue character)
  else if 'a' ≤ character ∧ character ≤ 'f' then some (character.toNat - 'a'.toNat + 10)
  else if 'A' ≤ character ∧ character ≤ 'F' then some (character.toNat - 'A'.toNat + 10)
  else none

/-- The byte that a letter behind a backslash stands for. -/
def escaped? (character : Char) : Option UInt8 :=
  if character = '"' ∨ character = '\\' ∨ character = '/' then some character.toUInt8
  else if character = 'b' then some 0x08
  else if character = 'f' then some 0x0c
  else if character = 'n' then some 0x0a
  else if character = 'r' then some 0x0d
  else if character = 't' then some 0x09
  else none

/-- No token can begin or go on here. -/
def refuse : List Token × State :=
  ([.invalid], .stopped)

/-- A number of which the digits before the point have been read. -/
def numeral (negative : Bool) (whole : List Nat) : Numeral where
  negative := negative
  whole := whole
  fraction := []
  exponent := none

/-- The first character after a token. -/
def stepBetween (character : Char) : List Token × State :=
  if isBlank character then ([], .between)
  else if character = '\x7b' then ([.openObject], .between)
  else if character = '\x7d' then ([.closeObject], .between)
  else if character = '[' then ([.openArray], .between)
  else if character = ']' then ([.closeArray], .between)
  else if character = ',' then ([.comma], .between)
  else if character = ':' then ([.colon], .between)
  else if character = '"' then ([], .string [])
  else if character = '-' then ([], .number .sign (numeral true []))
  else if character = '0' then ([], .number .zero (numeral false [0]))
  else if character.isDigit then ([], .number .whole (numeral false [digitValue character]))
  else if character = 'n' then ([], .word ['u', 'l', 'l'] .null)
  else if character = 't' then ([], .word ['r', 'u', 'e'] (.boolean true))
  else if character = 'f' then ([], .word ['a', 'l', 's', 'e'] (.boolean false))
  else refuse

namespace NumberPhase

/-- Whether a number may end here. -/
def isFinal : NumberPhase → Bool
  | zero | whole | fraction | exponent _ => true
  | sign | point | mark | markSign _ => false

/-- Where the digits before the point lead. -/
def afterWhole? (character : Char) : Option NumberPhase :=
  if character = '.' then some point
  else if character = 'e' ∨ character = 'E' then some mark
  else none

/-- The number with one more character, if it can go on with it. -/
def next? (character : Char) (read : Numeral) : NumberPhase → Option (NumberPhase × Numeral)
  | sign =>
    if character = '0' then some (zero, { read with whole := [0] })
    else if character.isDigit then some (whole, { read with whole := [digitValue character] })
    else none
  | zero => (afterWhole? character).map (·, read)
  | whole =>
    if character.isDigit then
      some (whole, { read with whole := digitValue character :: read.whole })
    else (afterWhole? character).map (·, read)
  | point =>
    if character.isDigit then some (fraction, { read with fraction := [digitValue character] })
    else none
  | fraction =>
    if character.isDigit then
      some (fraction, { read with fraction := digitValue character :: read.fraction })
    else if character = 'e' ∨ character = 'E' then some (mark, read)
    else none
  | mark =>
    if character = '+' then some (markSign false, read)
    else if character = '-' then some (markSign true, read)
    else digit? false 0
  | markSign shrinks => digit? shrinks 0
  | exponent shrinks => digit? shrinks (read.exponent.getD 0)
where
  /-- One more digit of an exponent. -/
  digit? (shrinks : Bool) (value : Int) : Option (NumberPhase × Numeral) :=
    if character.isDigit then
      let digit : Int := digitValue character
      let extended := if shrinks then value * 10 - digit else value * 10 + digit
      some (exponent shrinks, { read with exponent := some extended })
    else none

/-- Whether a character may not follow a number that could end here: there are no superfluous
leading zeros. -/
def forbids (character : Char) : NumberPhase → Bool
  | zero => character.isDigit
  | _ => false

end NumberPhase

/-- The number with its digits in the order of the text. -/
def inOrder (read : Numeral) : Numeral :=
  { read with whole := read.whole.reverse, fraction := read.fraction.reverse }

/-- One more character of a number, which ends before a character that cannot belong to it. -/
def stepNumber (character : Char) (phase : NumberPhase) (read : Numeral) : List Token × State :=
  match phase.next? character read with
  | some (next, extended) => ([], .number next extended)
  | none =>
    if !phase.isFinal || phase.forbids character then refuse
    else
      let (tokens, next) := stepBetween character
      (.number (inOrder read) :: tokens, next)

/-- One more byte. A string may hold any bytes but control characters; whether they are a text shows
at its end. -/
def step (byte : UInt8) (state : State) : List Token × State :=
  let character := Char.ofUInt8 byte
  match state with
  | .between => stepBetween character
  | .string parts =>
    if character = '"' then ([.string (StringPart.text? parts.reverse)], .between)
    else if character = '\\' then ([], .escape parts)
    else if byte < 0x20 then refuse
    else ([], .string (.byte byte :: parts))
  | .escape parts =>
    if character = 'u' then ([], .hexadecimal parts 4 0)
    else
      match escaped? character with
      | some value => ([], .string (.byte value :: parts))
      | none => refuse
  | .hexadecimal parts missing value =>
    match hexadecimalValue? character with
    | none => refuse
    | some digit =>
      let value := value * 16 + digit
      if missing ≤ 1 then ([], .string (.unit value :: parts))
      else ([], .hexadecimal parts (missing - 1) value)
  | .word [] _ => refuse
  | .word (letter :: missing) token =>
    if character ≠ letter then refuse
    else if missing = [] then ([token], .between)
    else ([], .word missing token)
  | .number phase read => stepNumber character phase read
  | .stopped => ([], .stopped)

def finish : State → List Token
  | .between => []
  | .number phase read => if phase.isFinal then [.number (inOrder read)] else [.invalid]
  | .stopped => []
  | _ => [.invalid]

/-- The tokens that are complete after the bytes, and the state that the bytes lead to. -/
def advance (state : State) : List UInt8 → List Token × State
  | [] => ([], state)
  | byte :: rest =>
    let (tokens, next) := step byte state
    let (others, last) := advance next rest
    (tokens ++ others, last)

/-- The tokens of bytes that are read from the given state. -/
def scan (state : State) (bytes : List UInt8) : List Token :=
  let (tokens, last) := advance state bytes
  tokens ++ finish last

/-- What follows is read from the state that the first bytes lead to. -/
theorem advance_append (state : State) (first second : List UInt8) :
    advance state (first ++ second) =
      ((advance state first).1 ++ (advance (advance state first).2 second).1,
        (advance (advance state first).2 second).2) := by
  induction first generalizing state with
  | nil => simp [advance]
  | cons byte rest ih => simp [advance, ih]

/-- The tokens of two parts, the second read from where the first leads. -/
theorem scan_append (state : State) (first second : List UInt8) :
    scan state (first ++ second) =
      (advance state first).1 ++ scan (advance state first).2 second := by
  simp [scan, advance_append]

end LoadReport.Json.Scanner

namespace LoadReport.Json

/-- The tokens of a text, up to and including the first place that is none. -/
def tokens (bytes : List UInt8) : List Token :=
  Scanner.scan .between bytes

end LoadReport.Json
