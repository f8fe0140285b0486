/-
This file reads decimal text as a double: an optional sign, then digits with at most one point
among them and an optional exponent, or the name of a value that is not finite. At least one digit
has to be there, on either side of the point; nothing may follow, and no blanks are skipped. The
value is the double nearest to what the text says, an infinity where that lies beyond the range.
-/

namespace ReleasePlayer

namespace Decimal

/-- Appends the digits of a text to a count. -/
def accumulate (start : Nat) (digits : List Char) : Nat :=
  digits.foldl (fun count digit => 10 * count + (digit.toNat - '0'.toNat)) start

/-- The sign of a text, `true` for a minus, and what stands behind it. -/
def readSign : List Char → Bool × List Char
  | '-' :: rest => (true, rest)
  | '+' :: rest => (false, rest)
  | rest => (false, rest)

/-- Reads a whole text as a signed exponent. -/
def readExponent (text : List Char) : Option Int :=
  let (negative, digits) := readSign text
  if digits.isEmpty || !digits.all Char.isDigit then none
  else
    let count := accumulate 0 digits
    some (if negative then -(count : Int) else count)

/-- Reads `digits · 10 ^ exponent` from a text without a sign. -/
def readUnsigned (text : List Char) : Option (Nat × Int) :=
  let whole := text.takeWhile Char.isDigit
  let afterWhole := text.dropWhile Char.isDigit
  let (places, rest) := match afterWhole with
    | '.' :: behind => (behind.takeWhile Char.isDigit, behind.dropWhile Char.isDigit)
    | _ => ([], afterWhole)
  if whole.isEmpty && places.isEmpty then none
  else
    let digits := accumulate 0 (whole ++ places)
    match rest with
    | [] => some (digits, -(places.length : Int))
    | mark :: power =>
      if mark = 'e' ∨ mark = 'E' then
        (readExponent power).map fun exponent => (digits, exponent - places.length)
      else none

end Decimal

namespace Double

/-- Positive infinity. -/
def infinity : Float := 1.0 / 0.0

/-- The undefined value. -/
def undefined : Float := 0.0 / 0.0

/-- The double nearest to `digits · 10 ^ exponent`. Far beyond either end of the range the answer
is known without the power. -/
def ofDecimal (digits : Nat) (exponent : Int) : Float :=
  let position := exponent + (Nat.toDigits 10 digits).length
  if digits = 0 then 0.0
  else if 310 < position then infinity
  else if position < -330 then 0.0
  else Float.ofScientific digits (exponent < 0) exponent.natAbs

/-- Reads the text of a double. -/
def read (text : String) : Option Float :=
  let (negative, rest) := Decimal.readSign text.toList
  let magnitude :=
    let name := rest.map Char.toLower
    if name = "inf".toList ∨ name = "infinity".toList then some infinity
    else if name = "nan".toList then some undefined
    else (Decimal.readUnsigned rest).map fun (digits, exponent) => ofDecimal digits exponent
  magnitude.map fun value => if negative then -value else value

end Double

end ReleasePlayer
