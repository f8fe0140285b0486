/-
This file writes values as documents: without blanks, with the fields of an object in their order, and
with as few escapes in texts as will do. A double that is not finite has no number to be written as,
and `null` stands for it.
-/

import ReleasePlayer.Json.Value

namespace ReleasePlayer.Json

/-- A character as it stands in a text. -/
def escaped (c : Char) : List Char :=
  if c = '"' ∨ c = '\\' then ['\\', c]
  else if c = '\x08' then ['\\', 'b']
  else if c = '\x0c' then ['\\', 'f']
  else if c = '\n' then ['\\', 'n']
  else if c = '\r' then ['\\', 'r']
  else if c = '\t' then ['\\', 't']
  else if c.toNat < 0x20 then
    ['\\', 'u', '0', '0', Nat.digitChar (c.toNat / 16), Nat.digitChar (c.toNat % 16)]
  else [c]

/-- A text between its quotes. -/
def writtenText (text : String) : List Char := '"' :: (text.toList.flatMap escaped ++ ['"'])

/-- A double as a number, if there is one. -/
def writtenReal (x : Float) : List Char :=
  if x.isFinite then (Double.document x).toList else "null".toList

mutual

/-- A value as a document. -/
def Value.written : Value → List Char
  | .null => "null".toList
  | .bool value => (if value then "true" else "false").toList
  | .whole value => (toString value).toList
  | .real value => writtenReal value
  | .text value => writtenText value
  | .list items => '[' :: ([','].intercalate (writtenItems items) ++ [']'])
  | .object fields => '\x7b' :: ([','].intercalate (writtenFields fields) ++ ['\x7d'])

/-- Values, each as a document. -/
def Value.writtenItems : List Value → List (List Char)
  | [] => []
  | item :: more => item.written :: writtenItems more

/-- Fields, each with its name. -/
def Value.writtenFields : List (String × Value) → List (List Char)
  | [] => []
  | (name, value) :: more => (writtenText name ++ ':' :: value.written) :: writtenFields more

end

/-- The document of a value. -/
def Value.document (value : Value) : String := String.ofList value.written

end ReleasePlayer.Json
