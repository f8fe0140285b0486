/-
This file reads the tokens of a document. A reader takes characters from the front of the text and
leaves the rest, also when it fails, so that a fault is reported at the place where reading
stopped. Nothing is read further than it has to be: of several faults in a document the first one
met is the one reported.
-/

import ReleasePlayer.Json.Fault
import ReleasePlayer.Text.Hexadecimal

namespace ReleasePlayer.Json

/-- Reads from the front of a text. -/
abbrev Reader (β : Type) : Type := ExceptT Fault (StateM (List Char)) β

namespace Reader

/-- Fails at the place reached so far. -/
def failHere {β : Type} (cause : Cause) : Reader β := do
  throw ⟨cause, some (byteCount (← get))⟩

/-- Fails at the next character: the place is behind its first byte. -/
def failNext {β : Type} (cause : Cause) : Reader β := do
  throw ⟨cause, some (byteCount (← get) - 1)⟩

/-- Fails without a place. -/
def fail {β : Type} (cause : Cause) : Reader β := throw ⟨cause, none⟩

/-- The outcome of a reader, a failure included. -/
def attempt {β : Type} (reader : Reader β) : Reader (Except Fault β) :=
  tryCatch (Except.ok <$> reader) fun fault => pure (.error fault)

/-- Gives a failure without a place the place reached. -/
def placed {β : Type} (reader : Reader β) : Reader β :=
  tryCatch reader fun fault =>
    match fault.left with
    | some _ => throw fault
    | none => failHere fault.cause

/-- Reads a part and its end. The end is read even if the part fails; of two failures the first
counts. -/
def enclosed {β : Type} (part : Reader β) (ending : Reader Unit) : Reader β := do
  let answer ← attempt part
  let ended ← attempt ending
  match answer, ended with
  | .ok value, .ok _ => pure value
  | .error fault, _ => throw fault
  | .ok _, .error fault => throw fault

/-- The blanks of a document. -/
def isBlank (c : Char) : Bool := c = ' ' || c = '\n' || c = '\t' || c = '\r'

/-- Skips blanks and looks at the next character. -/
def peek : Reader (Option Char) := do
  modify (·.dropWhile isBlank)
  return (← get).head?

/-- Takes one character. -/
def eat : Reader Unit := modify (·.drop 1)

/-- Skips blanks and looks at the first character of a value, which has to be there. -/
def peekValue : Reader Char := do
  match ← peek with
  | some c => pure c
  | none => failNext .endInValue

/-- Takes the characters of a word. -/
def word : List Char → Reader Unit
  | [] => pure ()
  | expected :: more => do
    match (← get).head? with
    | none => failHere .endInValue
    | some c => if c = expected then eat *> word more else failNext .wordExpected

/-! ### Texts -/

/-- The value of four hexadecimal digits. -/
def hexUnit (a b c d : Char) : Option Nat := do
  let high := 16 * (← Text.hexValue? a) + (← Text.hexValue? b)
  let low := 16 * (← Text.hexValue? c) + (← Text.hexValue? d)
  return 256 * high + low

/-- The character of a one-letter escape. -/
def shortEscape (c : Char) : Option Char :=
  if c = '"' ∨ c = '\\' ∨ c = '/' then some c
  else if c = 'b' then some '\x08'
  else if c = 'f' then some '\x0c'
  else if c = 'n' then some '\n'
  else if c = 'r' then some '\r'
  else if c = 't' then some '\t'
  else none

/-- The fault of a numbered escape that does not have four hexadecimal digits. -/
def hexFault (behind : List Char) : Fault :=
  let left := byteCount behind
  if left < 4 then ⟨.endInText, some 0⟩ else ⟨.badEscape, some (left - 4)⟩

/-- The outcome of reading a text: the characters, or a fault, and the rest. -/
abbrev TextOutcome : Type := Except Fault (List Char) × List Char

/-- Puts a character before the text read. -/
def TextOutcome.cons (c : Char) (outcome : TextOutcome) : TextOutcome :=
  (outcome.1.map (c :: ·), outcome.2)

/-- Reads a text up to its closing quote. Characters beyond 16 bits are escaped as two surrogates,
which have to stand together. -/
def textBody : List Char → TextOutcome
  | [] => (.error ⟨.endInText, some 0⟩, [])
  | '\\' :: 'u' :: a :: b :: c :: d :: rest =>
    match hexUnit a b c d with
    | none => (.error (hexFault (a :: b :: c :: d :: rest)), rest)
    | some unit =>
      if 0xdc00 ≤ unit ∧ unit ≤ 0xdfff then
        (.error ⟨.loneSurrogate, some (byteCount rest)⟩, rest)
      else if 0xd800 ≤ unit ∧ unit ≤ 0xdbff then
        match rest with
        | '\\' :: 'u' :: e :: f :: g :: h :: after =>
          match hexUnit e f g h with
          | none => (.error (hexFault (e :: f :: g :: h :: after)), after)
          | some low =>
            if 0xdc00 ≤ low ∧ low ≤ 0xdfff then
              (textBody after).cons
                (Char.ofNat (0x10000 + (unit - 0xd800) * 0x400 + (low - 0xdc00)))
            else (.error ⟨.loneSurrogate, some (byteCount after)⟩, after)
        | '\\' :: 'u' :: short => (.error (hexFault short), short)
        | ['\\'] => (.error ⟨.endInText, some 0⟩, [])
        | '\\' :: other => (.error ⟨.unfinishedEscape, some (byteCount other - 1)⟩, other)
        | [] => (.error ⟨.endInText, some 0⟩, [])
        | other => (.error ⟨.unfinishedEscape, some (byteCount other - 1)⟩, other)
      else (textBody rest).cons (Char.ofNat unit)
  | '\\' :: 'u' :: short => (.error (hexFault short), short)
  | ['\\'] => (.error ⟨.endInText, some 0⟩, [])
  | '\\' :: c :: rest =>
    match shortEscape c with
    | some meant => (textBody rest).cons meant
    | none => (.error ⟨.badEscape, some (byteCount (c :: rest) - 1)⟩, rest)
  | c :: rest =>
    if c = '"' then (.ok [], rest)
    else if c.toNat < 0x20 then (.error ⟨.controlInText, some (byteCount rest)⟩, rest)
    else (textBody rest).cons c

/-- Reads a text whose opening quote has been taken. -/
def text : Reader String := do
  let (outcome, rest) := textBody (← get)
  set rest
  match outcome with
  | .ok chars => pure (String.ofList chars)
  | .error fault => throw fault

/-- Skips a text up to its closing quote; its escapes need not make sense together. -/
def skipBody : List Char → Except Fault Unit × List Char
  | [] => (.error ⟨.endInText, some 0⟩, [])
  | '\\' :: 'u' :: a :: b :: c :: d :: rest =>
    if (hexUnit a b c d).isSome then skipBody rest
    else (.error (hexFault (a :: b :: c :: d :: rest)), rest)
  | '\\' :: 'u' :: short => (.error (hexFault short), short)
  | ['\\'] => (.error ⟨.endInText, some 0⟩, [])
  | '\\' :: c :: rest =>
    if (shortEscape c).isSome then skipBody rest
    else (.error ⟨.badEscape, some (byteCount (c :: rest) - 1)⟩, rest)
  | c :: rest =>
    if c = '"' then (.ok (), rest)
    else if c.toNat < 0x20 then (.error ⟨.controlInText, some (byteCount (c :: rest))⟩, c :: rest)
    else skipBody rest

/-- Skips a text whose opening quote has been taken. -/
def skipText : Reader Unit := do
  let (outcome, rest) := skipBody (← get)
  set rest
  match outcome with
  | .ok _ => pure ()
  | .error fault => throw fault

/-! ### Numbers -/

/-- The greatest count of 64 bits. -/
def countLimit : Nat := 1 <<< 64 - 1

/-- Appends digits to a count as long as it fits into 64 bits; answers with the count and with the
digits that did not fit. -/
def absorb (count : Nat) : List Char → Nat × List Char
  | [] => (count, [])
  | digit :: rest =>
    let next := 10 * count + (digit.toNat - '0'.toNat)
    if countLimit < next then (count, digit :: rest) else absorb next rest

/-- A count of at most 64 bits as a double. -/
def ofCount (count : Nat) : Float := (UInt64.ofNat count).toFloat

/-- Divides by ten often enough for an exponent below the least power of ten at hand. -/
def divideFar : Nat → Float → Int → Float
  | 0, _, _ => 0.0
  | more + 1, value, exponent =>
    if -308 ≤ exponent then value / Float.ofScientific 1 false exponent.natAbs
    else if value == 0.0 then value
    else divideFar more (value / Float.ofScientific 1 false 308) (exponent + 308)

/-- A count times a power of ten, computed with one rounding for the count and one for each
multiplication or division; `none` if it is beyond the doubles. -/
def scale (count : Nat) (exponent : Int) : Option Float :=
  let value := ofCount count
  if exponent < 0 then some (divideFar 5 value exponent)
  else if 308 < exponent then (if value == 0.0 then some value else none)
  else
    let scaled := value * Float.ofScientific 1 false exponent.natAbs
    if scaled.isInf then none else some scaled

/-- The number of a sign, a count and an exponent. -/
def ofParts (negative : Bool) (count : Nat) (exponent : Int) : Reader Value := do
  match scale count exponent with
  | some value => pure (.real (if negative then -value else value))
  | none => failHere .numberTooLarge

/-- The greatest exponent that is taken at its word. -/
def exponentLimit : Nat := 1 <<< 31 - 1

/-- Appends digits to an exponent as long as it is within the limit; answers with the digits behind
the one that went beyond, if there is one. -/
def absorbExponent (count : Nat) : List Char → Nat × Option (List Char)
  | [] => (count, none)
  | digit :: rest =>
    let next := 10 * count + (digit.toNat - '0'.toNat)
    if exponentLimit < next then (count, some rest) else absorbExponent next rest

/-- Reads the digits of an exponent, behind its sign. -/
def exponentDigits (negative : Bool) (count : Nat) (start : Int) (falls : Bool) :
    Reader Value := do
  match (← get).head? with
  | none => failHere .endInValue
  | some c =>
    if c.isDigit then
      let digits := (← get).takeWhile Char.isDigit
      let rest := (← get).dropWhile Char.isDigit
      match absorbExponent 0 digits with
      | (power, none) =>
        set rest
        ofParts negative count (if falls then start - power else start + power)
      | (_, some ignored) =>
        if count ≠ 0 ∧ ¬ falls then
          set (ignored ++ rest)
          failHere .numberTooLarge
        else
          set rest
          pure (.real (if negative then -0.0 else 0.0))
    else failNext .badNumber

/-- Reads the exponent of a number, from its mark on. -/
def exponentPart (negative : Bool) (count : Nat) (start : Int) : Reader Value := do
  eat
  match (← get).head? with
  | some '+' => eat *> exponentDigits negative count start false
  | some '-' => eat *> exponentDigits negative count start true
  | _ => exponentDigits negative count start false

/-- Whether the next character marks an exponent. -/
def atExponent : Reader Bool := do
  return (← get).head? = some 'e' || (← get).head? = some 'E'

/-- Reads the places of a number, from the point on. Places that do not fit into the count are
left out. -/
def placesPart (negative : Bool) (count : Nat) (start : Int) : Reader Value := do
  eat
  let digits := (← get).takeWhile Char.isDigit
  if digits.isEmpty then
    match (← get).head? with
    | some _ => failNext .badNumber
    | none => failNext .endInValue
  else
    let (total, ignored) := absorb count digits
    modify (·.dropWhile Char.isDigit)
    let exponent := start - ((digits.length - ignored.length : Nat) : Int)
    if ← atExponent then exponentPart negative total exponent
    else ofParts negative total exponent

/-- Reads what may follow the whole part of a number, or the number itself. -/
def fractionPart (negative : Bool) (count : Nat) : Reader Value := do
  if (← get).head? = some '.' then placesPart negative count 0
  else if ← atExponent then exponentPart negative count 0
  else if negative then
    if count = 0 ∨ 1 <<< 63 < count then pure (.real (-ofCount count))
    else pure (.whole (-(count : Int)))
  else pure (.whole count)

/-- Reads a number whose sign has been taken. A whole number that does not fit into 64 bits becomes
a double; its digits beyond those count as powers of ten. -/
def number (negative : Bool) : Reader Value := do
  match ← get with
  | [] => failHere .endInValue
  | first :: rest =>
    if first = '0' then
      set rest
      if (rest.head?.map Char.isDigit).getD false then failNext .badNumber
      else fractionPart negative 0
    else if first.isDigit then
      let digits := (first :: rest).takeWhile Char.isDigit
      let (count, ignored) := absorb 0 digits
      set ((first :: rest).dropWhile Char.isDigit)
      if ignored.isEmpty then fractionPart negative count
      else if (← get).head? = some '.' then placesPart negative count ignored.length
      else if ← atExponent then exponentPart negative count ignored.length
      else ofParts negative count ignored.length
    else failNext .badNumber

/-- Skips an exponent, from its mark on. -/
def skipExponent : Reader Unit := do
  eat
  match (← get).head? with
  | some '+' => eat
  | some '-' => eat
  | _ => pure ()
  match (← get).head? with
  | none => failHere .badNumber
  | some c => if c.isDigit then modify (·.dropWhile Char.isDigit) else failNext .badNumber

/-- Skips what may follow the whole part of a number. -/
def skipFraction : Reader Unit := do
  if (← get).head? = some '.' then
    eat
    if ((← get).head?.map Char.isDigit).getD false then
      modify (·.dropWhile Char.isDigit)
      if ← atExponent then skipExponent
    else failNext .badNumber
  else if ← atExponent then skipExponent

/-- Skips a number whose sign has been taken. -/
def skipNumber : Reader Unit := do
  match ← get with
  | [] => failHere .badNumber
  | '0' :: rest =>
    set rest
    if (rest.head?.map Char.isDigit).getD false then failNext .badNumber else skipFraction
  | first :: rest =>
    if first.isDigit then
      set ((first :: rest).dropWhile Char.isDigit)
      skipFraction
    else failNext .badNumber

/-! ### Lists and objects -/

/-- Whether a list goes on: the comma before a further item is taken. -/
def hasItem (isFirst : Bool) : Reader Bool := do
  match ← peek with
  | none => failNext .endInList
  | some c =>
    if c = ']' then pure false
    else if isFirst then pure true
    else if c = ',' then
      eat
      match ← peek with
      | some ']' => failNext .trailingComma
      | some _ => pure true
      | none => failNext .endInValue
    else failNext .listEndExpected

/-- Whether an object goes on: the comma before a further key and the quote that opens the key are
taken. -/
def hasKey (isFirst : Bool) : Reader Bool := do
  match ← peek with
  | none => failNext .endInObject
  | some c =>
    if c = '\x7d' then pure false
    else if isFirst then
      if c = '"' then eat *> pure true else failNext .keyExpected
    else if c = ',' then
      eat
      match ← peek with
      | some '"' => eat *> pure true
      | some '\x7d' => failNext .trailingComma
      | some _ => failNext .keyExpected
      | none => failNext .endInValue
    else failNext .objectEndExpected

/-- Takes the colon behind a key. -/
def colon : Reader Unit := do
  match ← peek with
  | some ':' => eat
  | some _ => failNext .colonExpected
  | none => failNext .endInObject

/-- Takes the end of a list. -/
def listEnd : Reader Unit := do
  match ← peek with
  | some ']' => eat
  | some ',' =>
    eat
    match ← peek with
    | some ']' => failNext .trailingComma
    | _ => failNext .trailingText
  | some _ => failNext .trailingText
  | none => failNext .endInList

/-- Takes the end of an object. -/
def objectEnd : Reader Unit := do
  match ← peek with
  | some '\x7d' => eat
  | some ',' => failNext .trailingComma
  | some _ => failNext .trailingText
  | none => failNext .endInObject

/-- Runs the reader of what a bracket encloses one level deeper; the first level beyond the last is
refused at the bracket. -/
def deeper {β : Type} (depth : Nat) (body : Nat → Reader β) : Reader β :=
  match depth with
  | inner + 1 => if inner = 0 then failNext .tooDeep else eat *> body inner
  | 0 => failNext .tooDeep

/-- Reads the items of a list up to its end. The count bounds the number of items, which is at most
the number of characters left. -/
def items {β : Type} (item : Reader β) : Nat → Bool → Reader (List β)
  | 0, _ => pure []
  | more + 1, isFirst => do
    if ← hasItem isFirst then
      let value ← item
      return value :: (← items item more false)
    else pure []

/-- Reads the fields of an object up to its end. The reader of a field is given its key. -/
def fields {β : Type} (field : String → Reader β) : Nat → Bool → Reader (List β)
  | 0, _ => pure []
  | more + 1, isFirst => do
    if ← hasKey isFirst then
      let value ← field (← text)
      return value :: (← fields field more false)
    else pure []

/-- A bound for the number of items or fields still to come. -/
def bound : Reader Nat := return (← get).length + 1

/-! ### Whole values -/

/-- Reads a value that is neither a list nor an object, from its first character on. -/
def scalar (first : Char) : Reader Value := do
  if first = 'n' then eat *> word "ull".toList *> pure .null
  else if first = 't' then eat *> word "rue".toList *> pure (.bool true)
  else if first = 'f' then eat *> word "alse".toList *> pure (.bool false)
  else if first = '-' then eat *> number true
  else if first.isDigit then number false
  else if first = '"' then eat *> (Value.text <$> text)
  else failNext .valueExpected

/-- Reads any value, at most `depth` levels deep. -/
def anyValue : Nat → Reader Value
  | 0 => failNext .tooDeep
  | depth + 1 => placed do
    let first ← peekValue
    if first = '[' then
      if depth = 0 then failNext .tooDeep
      else
        eat
        let count ← bound
        Value.list <$> enclosed (items (anyValue depth) count true) listEnd
    else if first = '\x7b' then
      if depth = 0 then failNext .tooDeep
      else
        eat
        let count ← bound
        let field := fun (key : String) => do
          colon
          return (key, ← anyValue depth)
        Value.object <$> enclosed (fields field count true) objectEnd
    else scalar first

/-- Refuses the value that comes next, which is not of the type expected. -/
def mismatch {β : Type} (first : Char) (expected : String) : Reader β := placed do
  if first = '[' then fail (.wrongType "sequence" expected)
  else if first = '\x7b' then fail (.wrongType "map" expected)
  else
    let value ← scalar first
    fail (.wrongType value.describe expected)

/-- Skips the items of a list behind its first character. -/
def skipItems (item : Reader Unit) : Nat → Reader Unit
  | 0 => pure ()
  | more + 1 => do
    item
    match ← peek with
    | some ',' => eat *> skipItems item more
    | some ']' => eat
    | some _ => failNext .listEndExpected
    | none => failNext .endInList

/-- Skips the fields of an object behind its first character. -/
def skipFields (item : Reader Unit) : Nat → Reader Unit
  | 0 => pure ()
  | more + 1 => do
    match ← peek with
    | some '"' => eat
    | some _ => failNext .keyExpected
    | none => failNext .endInObject
    skipText
    colon
    item
    match ← peek with
    | some ',' => eat *> skipFields item more
    | some '\x7d' => eat
    | some _ => failNext .objectEndExpected
    | none => failNext .endInObject

/-- Skips a value of any depth; the count bounds its depth. -/
def skipAny : Nat → Reader Unit
  | 0 => pure ()
  | more + 1 => do
    let first ← peekValue
    if first = '[' then
      eat
      match ← peek with
      | some ']' => eat
      | some _ => skipItems (skipAny more) (← bound)
      | none => failNext .endInList
    else if first = '\x7b' then
      eat
      match ← peek with
      | some '\x7d' => eat
      | some _ => skipFields (skipAny more) (← bound)
      | none => failNext .endInObject
    else if first = '"' then eat *> skipText
    else if first = '-' then eat *> skipNumber
    else if first.isDigit then skipNumber
    else discard (scalar first)

/-- Skips a value. -/
def skipValue : Reader Unit := do skipAny (← bound)

/-- Nothing but blanks may follow. -/
def documentEnd : Reader Unit := do
  match ← peek with
  | none => pure ()
  | some _ => failNext .trailingText

end Reader

end ReleasePlayer.Json
