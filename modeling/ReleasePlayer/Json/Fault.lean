/-
This file lists what can be wrong with a document: with its text, or with the kind of value found
at a place where another was expected. A fault of the text has a place, counted in lines and in
bytes behind the last line break.
-/

import ReleasePlayer.Json.Value

namespace ReleasePlayer.Json

inductive Cause where
  | endInList
  | endInObject
  | endInText
  | endInValue
  | colonExpected
  | listEndExpected
  | objectEndExpected
  | wordExpected
  | valueExpected
  | badEscape
  | badNumber
  | numberTooLarge
  | controlInText
  | keyExpected
  | loneSurrogate
  | unfinishedEscape
  | trailingComma
  | trailingText
  | tooDeep
  | wrongType (found expected : String)
  | wrongValue (found expected : String)
  | wrongLength (count : Nat) (expected : String)
  | missingField (name : String)
  | duplicateField (name : String)
  | unknownVariant (name : String) (known : List String)
deriving DecidableEq, Repr

/-- A name between grave accents, as messages show it. -/
def accented (name : String) : String := "\x60" ++ name ++ "\x60"

/-- The names a variant may have, as a message lists them. -/
def alternatives : List String → String
  | [] => "there are no variants"
  | [only] => "expected " ++ accented only
  | [first, second] => "expected " ++ accented first ++ " or " ++ accented second
  | names => "expected one of " ++ ", ".intercalate (names.map accented)

/-- The wording of a cause. -/
def Cause.message : Cause → String
  | .endInList => "EOF while parsing a list"
  | .endInObject => "EOF while parsing an object"
  | .endInText => "EOF while parsing a string"
  | .endInValue => "EOF while parsing a value"
  | .colonExpected => "expected " ++ accented ":"
  | .listEndExpected => "expected " ++ accented "," ++ " or " ++ accented "]"
  | .objectEndExpected => "expected " ++ accented "," ++ " or " ++ accented "\x7d"
  | .wordExpected => "expected ident"
  | .valueExpected => "expected value"
  | .badEscape => "invalid escape"
  | .badNumber => "invalid number"
  | .numberTooLarge => "number out of range"
  | .controlInText => "control character (\\u0000-\\u001F) found while parsing a string"
  | .keyExpected => "key must be a string"
  | .loneSurrogate => "lone leading surrogate in hex escape"
  | .unfinishedEscape => "unexpected end of hex escape"
  | .trailingComma => "trailing comma"
  | .trailingText => "trailing characters"
  | .tooDeep => "recursion limit exceeded"
  | .wrongType found expected => "invalid type: " ++ found ++ ", expected " ++ expected
  | .wrongValue found expected => "invalid value: " ++ found ++ ", expected " ++ expected
  | .wrongLength count expected =>
    "invalid length " ++ toString count ++ ", expected " ++ expected
  | .missingField name => "missing field " ++ accented name
  | .duplicateField name => "duplicate field " ++ accented name
  | .unknownVariant name known =>
    "unknown variant " ++ accented name ++ ", " ++ alternatives known

/-- A fault while a document is read: its cause, and how many bytes were left behind its place if
the place is known. -/
structure Fault where
  cause : Cause
  left : Option Nat
deriving DecidableEq, Repr

/-- A place in a text: the line, and the byte in the line. -/
structure Place where
  line : Nat
  column : Nat
deriving DecidableEq, Repr

/-- The number of bytes of a text. -/
def byteCount (text : List Char) : Nat := text.foldl (fun count c => count + c.utf8Size) 0

/-- Walks `count` bytes from a place. -/
def Place.advance : Nat → List Char → Place → Place
  | 0, _, place => place
  | _, [], place => place
  | count + 1, c :: rest, place =>
    if count + 1 < c.utf8Size then { place with column := place.column + (count + 1) }
    else
      advance (count + 1 - c.utf8Size) rest
        (if c = '\n' then ⟨place.line + 1, 0⟩
          else ⟨place.line, place.column + c.utf8Size⟩)
termination_by _ text _ => text.length

/-- What a refused document is refused for. -/
structure Problem where
  cause : Cause
  place : Option Place
deriving DecidableEq, Repr

/-- Finds the place of a fault in the text that was read. -/
def Fault.toProblem (text : List Char) (fault : Fault) : Problem where
  cause := fault.cause
  place := fault.left.map fun left =>
    Place.advance (byteCount text - left) text ⟨1, 0⟩

/-- The wording of a problem, with its place behind it. -/
def Problem.message (problem : Problem) : String :=
  match problem.place with
  | none => problem.cause.message
  | some place =>
    problem.cause.message ++ " at line " ++ toString place.line ++ " column " ++
      toString place.column

/-- Whether a text is a number. -/
def isNumber (text : List Char) : Bool := !text.isEmpty && text.all Char.isDigit

/-- A message without the place that it ends in. -/
def withoutPlace (message : String) : String :=
  let text := message.toList
  let reversed := text.reverse
  let column := reversed.takeWhile Char.isDigit
  let beforeColumn := reversed.drop column.length
  let line := (beforeColumn.drop 8).takeWhile Char.isDigit
  let beforeLine := beforeColumn.drop (8 + line.length)
  if isNumber column && isNumber line && beforeColumn.take 8 == " column ".toList.reverse &&
      beforeLine.take 9 == " at line ".toList.reverse then
    String.ofList (beforeLine.drop 9).reverse
  else message

end ReleasePlayer.Json
