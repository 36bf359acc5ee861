import Metering.Text.Invisible

/-!
# Texts shown to a reader

A text inside a message is put between quotes, and characters that a reader
could not see or tell apart are written by their numbers.
-/

namespace Metering.Text

/-- The number of a character in hexadecimal digits and braces. -/
def byNumber (c : Char) : List Char :=
  ['\\', 'u', '\x7b'] ++ Nat.toDigits 16 c.toNat ++ ['\x7d']

/-- A character as it is shown between quotes. -/
def showChar (c : Char) : List Char :=
  if c = '"' then ['\\', '"']
  else if c = '\\' then ['\\', '\\']
  else if c = '\x00' then ['\\', '0']
  else if c = '\t' then ['\\', 't']
  else if c = '\r' then ['\\', 'r']
  else if c = '\n' then ['\\', 'n']
  else if isInvisible c then byNumber c
  else [c]

/-- A text between quotes, as it is shown. -/
def shown (s : String) : String := "\"" ++ String.ofList (s.toList.flatMap showChar) ++ "\""

end Metering.Text
