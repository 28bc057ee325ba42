import LoadReport.Decimal.Style
import LoadReport.Results.Basic

/-! # Writing results

One object without blanks, with all fields in their order. -/

namespace LoadReport.Results

/-- Numbers have the fewest digits that read back, a point or an exponent, and are written out in
full from `0.00001` up to `10 ^ 16`. -/
def numberStyle : Decimal.Style where
  tie := .even
  positional := fun leading => -5 ≤ leading && leading < 16
  wholeEnding := ['.', '0']
  exponentSign := ['+']

/-- Only finite numbers have a notation in this format. -/
def writeNumber (value : Binary64) : String :=
  if value.isFinite then numberStyle.render value else "null"

/-- A control character spelled by its number, which has two digits at most. -/
def writeControl (character : Char) : List Char :=
  ['\\', 'u', '0', '0', Nat.digitChar (character.toNat / 16), Nat.digitChar (character.toNat % 16)]

/-- How a character is written inside a string. -/
def writeCharacter (character : Char) : List Char :=
  if character = '"' then ['\\', '"']
  else if character = '\\' then ['\\', '\\']
  else if character = '\x08' then ['\\', 'b']
  else if character = '\x0c' then ['\\', 'f']
  else if character = '\n' then ['\\', 'n']
  else if character = '\r' then ['\\', 'r']
  else if character = '\t' then ['\\', 't']
  else if character.toNat < 0x20 then writeControl character
  else [character]

def writeString (text : String) : String :=
  String.ofList ('"' :: (text.toList.flatMap writeCharacter ++ ['"']))

def writeCounter (value : UInt64) : String :=
  Decimal.natural value.toNat

def writeValue (results : Results) : Field → String
  | .workload => writeString results.workload
  | .durationSec => writeNumber results.durationSec
  | .totalRequests => writeCounter results.totalRequests
  | .throughput => writeNumber results.throughput
  | .successCreated => writeCounter results.successCreated
  | .successReplay => writeCounter results.successReplay
  | .abortsConflict => writeCounter results.abortsConflict
  | .abortRate => writeNumber results.abortRate
  | .errors => writeCounter results.errors
  | .p95Latency => (results.p95Latency.map writeNumber).getD "null"

def writeMember (results : Results) (field : Field) : String :=
  writeString field.key ++ ":" ++ results.writeValue field

def write (results : Results) : String :=
  "\x7b" ++ String.intercalate "," (Field.all.map results.writeMember) ++ "\x7d"

end LoadReport.Results
