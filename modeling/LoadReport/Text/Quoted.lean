import LoadReport.Text.Unprintable

/-! # Quoted texts

Names and titles are quoted inside messages, so that the reader of a message sees where they end
and which characters they hold. -/

namespace LoadReport.Text

/-- A character spelled by its number. -/
def numbered (character : Char) : List Char :=
  ['\\', 'u', '\x7b'] ++ Nat.toDigits 16 character.toNat ++ ['\x7d']

/-- How a character is written inside quotes. -/
def spell (character : Char) : List Char :=
  if character = '"' then ['\\', '"']
  else if character = '\\' then ['\\', '\\']
  else if character = '\n' then ['\\', 'n']
  else if character = '\r' then ['\\', 'r']
  else if character = '\t' then ['\\', 't']
  else if character = '\x00' then ['\\', '0']
  else if isUnprintable character then numbered character
  else [character]

/-- The text between quotes. -/
def quoted (text : String) : String :=
  String.ofList ('"' :: (text.toList.flatMap spell ++ ['"']))

end LoadReport.Text
