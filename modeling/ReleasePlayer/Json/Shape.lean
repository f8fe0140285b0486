/-
This file says what kind of value is expected at a place of a document, and reads it there. A shape
reads a value in two ways that agree: from the text, and from a value that has been read already
because its kind was not known yet. What a shape accepts comes out in one form: a record with all
its fields in their order, an alternative under its name.
-/

import ReleasePlayer.Json.Reader

namespace ReleasePlayer.Json

/-- An expectation of a value. -/
structure Shape where
  /-- Reads the value from the text, at most so many levels deep. -/
  fromText : Nat → Reader Value
  /-- Takes a value that has been read. -/
  fromValue : Value → Except Fault Value

/-- A fault without a place. -/
def Fault.unplaced (cause : Cause) : Fault := ⟨cause, none⟩

namespace Shape

open Reader

/-- Refuses a value that has been read. -/
def refuse {β : Type} (value : Value) (expected : String) : Except Fault β :=
  .error (.unplaced (.wrongType value.describe expected))

/-! ### Plain values -/

/-- A text. -/
def text : Shape where
  fromText _ := do
    let first ← peekValue
    if first = '"' then eat *> (Value.text <$> Reader.text) else mismatch first "a string"
  fromValue
    | .text value => .ok (.text value)
    | value => refuse value "a string"

/-- A truth value. -/
def bool : Shape where
  fromText _ := do
    let first ← peekValue
    if first = 't' ∨ first = 'f' then scalar first else mismatch first "a boolean"
  fromValue
    | .bool value => .ok (.bool value)
    | value => refuse value "a boolean"

/-- A whole number of at most 64 bits as a double. -/
def realOfWhole (value : Int) : Float :=
  if value < 0 then -ofCount value.natAbs else ofCount value.natAbs

/-- A number. -/
def real : Shape where
  fromText _ := do
    let first ← peekValue
    if first = '-' ∨ first.isDigit then
      match ← scalar first with
      | .whole value => pure (.real (realOfWhole value))
      | value => pure value
    else mismatch first "f64"
  fromValue
    | .whole value => .ok (.real (realOfWhole value))
    | .real value => .ok (.real value)
    | value => refuse value "f64"

/-- Takes a value as a count. -/
def takeCount : Value → Except Fault Value
  | .whole value =>
    if value < 0 then
      .error (.unplaced (.wrongValue (Value.whole value).describe "usize"))
    else .ok (.whole value)
  | value => refuse value "usize"

/-- A count. -/
def count : Shape where
  fromText _ := do
    let first ← peekValue
    if first = '-' ∨ first.isDigit then
      placed do
        match takeCount (← scalar first) with
        | .ok value => pure value
        | .error fault => throw fault
    else mismatch first "usize"
  fromValue := takeCount

/-- A value that may be `null`. -/
def optional (shape : Shape) : Shape where
  fromText depth := do
    match ← peek with
    | some 'n' => scalar 'n'
    | _ => shape.fromText depth
  fromValue
    | .null => .ok .null
    | value => shape.fromValue value

/-- A list. -/
def list (shape : Shape) : Shape where
  fromText depth := do
    let first ← peekValue
    if first = '[' then
      placed do
        deeper depth fun inner => do
          let values ← enclosed (items (shape.fromText inner) (← bound) true) listEnd
          return .list values
    else mismatch first "a sequence"
  fromValue
    | .list values => Value.list <$> values.mapM shape.fromValue
    | value => refuse value "a sequence"

/-! ### Records -/

/-- What stands for a field that is not there. -/
inductive Absence where
  /-- Nothing does: the field has to be there. -/
  | required
  /-- `null` does if fields are named; among unnamed fields it has to be there. -/
  | nullable
  /-- A given value does. -/
  | filled (value : Value)

/-- A field of a record. -/
structure Field where
  name : String
  shape : Shape
  absence : Absence

/-- A field that has to be there. -/
def Field.of (name : String) (shape : Shape) : Field := ⟨name, shape, .required⟩

/-- The value for a field that no key named. -/
def Field.missing (field : Field) : Except Fault (String × Value) :=
  match field.absence with
  | .required => .error (.unplaced (.missingField field.name))
  | .nullable => .ok (field.name, .null)
  | .filled value => .ok (field.name, value)

/-- A count of elements in words. -/
def elements (count : Nat) : String :=
  toString count ++ (if count = 1 then " element" else " elements")

/-- What a record is expected to be if its fields are not named. -/
def tupleOf (name : String) (fields : List Field) : String :=
  name ++ " with " ++ elements fields.length

/-- Puts the fields found into their order and fills in those that are absent. -/
def arrange (fields : List Field) (found : List (String × Value)) :
    Except Fault (List (String × Value)) :=
  fields.mapM fun field =>
    match found.find? (·.1 == field.name) with
    | some entry => .ok entry
    | none => field.missing

/-- Reads the fields of a record one after the other, without names. -/
def readTuple (expected : String) (depth : Nat) :
    List Field → Nat → Bool → Reader (List (String × Value))
  | [], _, _ => pure []
  | field :: more, index, isFirst => do
    if ← hasItem isFirst then
      let value ← field.shape.fromText depth
      return (field.name, value) :: (← readTuple expected depth more (index + 1) false)
    else
      match field.absence with
      | .filled value =>
        return (field.name, value) :: (← readTuple expected depth more (index + 1) isFirst)
      | _ => fail (.wrongLength index expected)

/-- Reads named fields in any order. Unknown names are skipped with what they name. -/
def readNamed (fields : List Field) (depth : Nat) :
    Nat → Bool → List (String × Value) → Reader (List (String × Value))
  | 0, _, found => pure found
  | more + 1, isFirst, found => do
    if ← hasKey isFirst then
      let key ← Reader.text
      match fields.find? (·.name == key) with
      | some field =>
        if found.any (·.1 == key) then fail (.duplicateField key)
        else
          colon
          let value ← field.shape.fromText depth
          readNamed fields depth more false ((key, value) :: found)
      | none =>
        colon
        skipValue
        readNamed fields depth more false found
    else pure found

/-- Lifts an outcome into a reader. -/
def lift {β : Type} : Except Fault β → Reader β
  | .ok value => pure value
  | .error fault => throw fault

/-- Takes unnamed fields that have been read. -/
def takeTuple (expected : String) :
    List Field → Nat → List Value → Except Fault (List (String × Value))
  | [], index, rest =>
    if rest.isEmpty then .ok []
    else
      .error (.unplaced
        (.wrongLength (index + rest.length) (elements index ++ " in sequence")))
  | field :: more, index, value :: rest => do
    let taken ← field.shape.fromValue value
    return (field.name, taken) :: (← takeTuple expected more (index + 1) rest)
  | field :: more, index, [] =>
    match field.absence with
    | .filled value => do
      return (field.name, value) :: (← takeTuple expected more (index + 1) [])
    | _ => .error (.unplaced (.wrongLength index expected))

/-- Takes named fields that have been read. -/
def takeNamed (fields : List Field) :
    List (String × Value) → List (String × Value) → Except Fault (List (String × Value))
  | [], found => .ok found
  | (key, value) :: rest, found =>
    match fields.find? (·.name == key) with
    | some field =>
      if found.any (·.1 == key) then .error (.unplaced (.duplicateField key))
      else do
        let taken ← field.shape.fromValue value
        takeNamed fields rest ((key, taken) :: found)
    | none => takeNamed fields rest found

/-- Takes the fields of a record that has been read, named or not. -/
def takeFields (expected : String) (fields : List Field) :
    Value → Except Fault (List (String × Value))
  | .list values => takeTuple (tupleOf expected fields) fields 0 values
  | .object entries => do arrange fields (← takeNamed fields entries [])
  | value => refuse value expected

/-- A record: an object with its fields in any order, or a list of them in theirs. -/
def record (expected : String) (fields : List Field) : Shape where
  fromText depth := do
    let first ← peekValue
    if first = '[' then
      placed do
        deeper depth fun inner =>
          Value.object <$>
            enclosed (readTuple (tupleOf expected fields) inner fields 0 true) listEnd
    else if first = '\x7b' then
      placed do
        deeper depth fun inner => do
          let count ← bound
          let body : Reader (List (String × Value)) := do
            lift (arrange fields (← readNamed fields inner count true []))
          Value.object <$> enclosed body objectEnd
    else mismatch first expected
  fromValue value := Value.object <$> takeFields expected fields value

/-! ### Alternatives -/

/-- Reads the name of an alternative, one of those known. -/
def readVariant (known : List String) : Reader String := do
  let first ← peekValue
  if first = '"' then
    placed do
      eat
      let name ← Reader.text
      if known.contains name then pure name else fail (.unknownVariant name known)
  else mismatch first "variant identifier"

/-- Takes the name of an alternative that has been read. -/
def takeVariant (known : List String) (name : String) : Except Fault String :=
  if known.contains name then .ok name
  else .error (.unplaced (.unknownVariant name known))

/-- An alternative written as its name, or as an object from its name to what it carries. -/
def choice (variants : List (String × Option Shape)) : Shape where
  fromText depth := do
    let known := variants.map (·.1)
    match ← peekValue with
    | '\x7b' =>
      let value ← deeper depth fun inner => do
        let name ← readVariant known
        colon
        match (variants.lookup name).join with
        | none =>
          let first ← peekValue
          if first = 'n' then scalar first *> pure (.text name) else mismatch first "unit"
        | some shape => return .object [(name, ← shape.fromText inner)]
      match ← peek with
      | some '\x7d' => eat *> pure value
      | some _ => failHere .valueExpected
      | none => failHere .endInObject
    | '"' =>
      let name ← readVariant known
      match (variants.lookup name).join with
      | none => pure (.text name)
      | some _ => fail (.wrongType "unit variant" "newtype variant")
    | _ => failNext .valueExpected
  fromValue
    | .text name => do
      let name ← takeVariant (variants.map (·.1)) name
      match (variants.lookup name).join with
      | none => .ok (.text name)
      | some _ => .error (.unplaced (.wrongType "unit variant" "newtype variant"))
    | .object [(name, value)] => do
      let name ← takeVariant (variants.map (·.1)) name
      match (variants.lookup name).join, value with
      | some shape, value => do return .object [(name, ← shape.fromValue value)]
      | none, .null => .ok (.text name)
      | none, .object [] => .ok (.text name)
      | none, value => refuse value "unit"
    | .object _ => .error (.unplaced (.wrongValue "map" "map with a single key"))
    | value => refuse value "string or map"

/-- An alternative of names alone. -/
def names (known : List String) : Shape := choice (known.map fun name => (name, none))

/-- One of the records that a tag tells apart; without fields it carries nothing. -/
structure Tagged where
  /-- The value of the tag. -/
  name : String
  /-- What the record is called in messages. -/
  expected : String
  fields : List Field

/-- Takes the fields of the record that a tag names. -/
def takeTagged (tag : String) (variants : List Tagged) (name : String) (rest : Value) :
    Except Fault Value :=
  match variants.find? (·.name == name) with
  | none => .error (.unplaced (.unknownVariant name (variants.map (·.name))))
  | some variant =>
    if variant.fields.isEmpty then
      match rest with
      | .list (value :: more) =>
        .error (.unplaced (.wrongLength (value :: more).length (elements 0 ++ " in sequence")))
      | _ => .ok (.object [(tag, .text name)])
    else do
      return .object ((tag, .text name) :: (← takeFields variant.expected variant.fields rest))

/-- Reads the entries of an object, and the tag among them. -/
def readEntries (tag : String) (known : List String) (depth : Nat) :
    Nat → Bool → Option String → List (String × Value) →
      Reader (Option String × List (String × Value))
  | 0, _, seen, found => pure (seen, found.reverse)
  | more + 1, isFirst, seen, found => do
    if ← hasKey isFirst then
      let key ← Reader.text
      if key = tag then
        if seen.isSome then fail (.duplicateField tag)
        else
          colon
          let name ← readVariant known
          readEntries tag known depth more false (some name) found
      else
        colon
        let value ← anyValue depth
        readEntries tag known depth more false seen ((key, value) :: found)
    else pure (seen, found.reverse)

/-- Takes the tag among entries that have been read. -/
def takeEntries (tag : String) (known : List String) :
    Option String → List (String × Value) → List (String × Value) →
      Except Fault (Option String × List (String × Value))
  | seen, found, [] => .ok (seen, found.reverse)
  | seen, found, (key, value) :: rest =>
    if key = tag then
      if seen.isSome then .error (.unplaced (.duplicateField tag))
      else
        match value with
        | .text name => do
          let name ← takeVariant known name
          takeEntries tag known (some name) found rest
        | value => refuse value "variant identifier"
    else takeEntries tag known seen ((key, value) :: found) rest

/-- The tag has to be there. -/
def needTag (tag : String) (seen : Option String) (rest : Value) :
    Except Fault (String × Value) :=
  match seen with
  | some name => .ok (name, rest)
  | none => .error (.unplaced (.missingField tag))

/-- One of several records: an object with the tag among its fields, or a list that begins with the
tag. -/
def tagged (expected tag : String) (variants : List Tagged) : Shape where
  fromText depth := do
    let known := variants.map (·.name)
    let first ← peekValue
    let (name, rest) ←
      if first = '[' then
        placed do
          deeper depth fun inner => do
            let body : Reader (String × Value) := do
              if ← hasItem true then
                let name ← readVariant known
                let values ← items (anyValue inner) (← bound) false
                return (name, .list values)
              else fail (.missingField tag)
            enclosed body listEnd
      else if first = '\x7b' then
        placed do
          deeper depth fun inner => do
            let body : Reader (String × Value) := do
              let (seen, entries) ← readEntries tag known inner (← bound) true none []
              lift (needTag tag seen (.object entries))
            enclosed body objectEnd
      else mismatch first expected
    lift (takeTagged tag variants name rest)
  fromValue
    | .list (.text name :: rest) => do
      let name ← takeVariant (variants.map (·.name)) name
      takeTagged tag variants name (.list rest)
    | .list (value :: _) => refuse value "variant identifier"
    | .list [] => .error (.unplaced (.missingField tag))
    | .object entries => do
      let (seen, entries) ← takeEntries tag (variants.map (·.name)) none [] entries
      let (name, rest) ← needTag tag seen (.object entries)
      takeTagged tag variants name rest
    | value => refuse value expected

/-! ### Whole documents -/

/-- How deep lists and objects may be nested, one less. -/
def depthLimit : Nat := 128

/-- Reads a document of the shape. -/
def read (shape : Shape) (text : String) : Except Problem Value :=
  let chars := text.toList
  let document : Reader Value := do
    let value ← shape.fromText depthLimit
    documentEnd
    return value
  match (document.run chars).1 with
  | .ok value => .ok value
  | .error fault => .error (fault.toProblem chars)

/-- Reads a document of the shape and takes what it says. What a shape accepts can always be taken
by the function that belongs to it, so the last case does not arise. -/
def readAs {β : Type} (shape : Shape) (take : Value → Option β) (text : String) :
    Except Problem β :=
  match shape.read text with
  | .error problem => .error problem
  | .ok value =>
    match take value with
    | some taken => .ok taken
    | none => .error ⟨.valueExpected, none⟩

end Shape

end ReleasePlayer.Json
