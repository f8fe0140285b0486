/-
This file quotes texts for messages: between double quotes, with a backslash before a quote or a
backslash, the usual short forms for tab, line feed, carriage return and the null character, and
the number in braces for every other character that would not show.
-/

import ReleasePlayer.Text.Spelled

namespace ReleasePlayer.Text

/-- The spelling of a character by its number. -/
def spellNumber (c : Char) : List Char :=
  ['\\', 'u', '\x7b'] ++ Nat.toDigits 16 c.toNat ++ ['\x7d']

/-- A character as it stands in a quoted text. -/
def quoteChar (c : Char) : List Char :=
  if c = '"' then ['\\', '"']
  else if c = '\\' then ['\\', '\\']
  else if c = '\t' then ['\\', 't']
  else if c = '\n' then ['\\', 'n']
  else if c = '\r' then ['\\', 'r']
  else if c.toNat = 0 then ['\\', '0']
  else if isSpelled c then spellNumber c
  else [c]

/-- A text between quotes. -/
def quoted (text : String) : String :=
  String.ofList ('"' :: (text.toList.flatMap quoteChar ++ ['"']))

end ReleasePlayer.Text
