/-
This file writes doubles as decimal text. Two layouts share the shortest digits: the plain one
never uses an exponent and writes whole numbers without a point, the literal one marks a number as
fractional (`1.0`) and changes to an exponent where the point would be far from the digits. A third
writer has exactly two places and rounds the exact value, a tie to the even neighbour.
-/

import ReleasePlayer.Decimal.Shortest

namespace ReleasePlayer

namespace Decimal

/-- The decimal digits of a count. -/
def digitText (count : Nat) : List Char := Nat.toDigits 10 count

/-- Where a layout puts the point, what it adds to whole numbers, and which digits it takes if two
texts are equally short and equally near. -/
structure Layout where
  /-- Written behind a whole number. -/
  wholeSuffix : List Char
  /-- The positions of the point, counted from the first digit, for which no exponent is used;
  `none` if an exponent is never used. -/
  pointRange : Option (Int × Int)
  tie : Tie

/-- Plain decimal text: no exponent at any size, no point without places. -/
def Layout.plain : Layout := ⟨[], none, .up⟩

/-- Literal text: `1.0` for a whole number, an exponent from `1e16` on and below `1e-4`. -/
def Layout.literal : Layout := ⟨['.', '0'], some (-3, 16), .up⟩

/-- The text of a number in a document: as literal text, with an exponent from `1e16` on and below
`1e-5`, and with the even one of two equally near texts. -/
def Layout.document : Layout := ⟨['.', '0'], some (-4, 16), .even⟩

/-- Writes `digits · 10 ^ exponent` with the point at its place. -/
def positional (layout : Layout) (digits : List Char) (exponent : Int) : List Char :=
  if 0 ≤ exponent then
    digits ++ List.replicate exponent.toNat '0' ++ layout.wholeSuffix
  else
    let places := (-exponent).toNat
    if places < digits.length then
      digits.take (digits.length - places) ++ '.' :: digits.drop (digits.length - places)
    else
      '0' :: '.' :: (List.replicate (places - digits.length) '0' ++ digits)

/-- Writes `digits · 10 ^ exponent` with one digit before the point and the exponent behind `e`. -/
def scientific (digits : List Char) (exponent : Int) : List Char :=
  let power := exponent + digits.length - 1
  let sign := if power < 0 then ['-'] else []
  let fraction := match digits with
    | [] => []
    | [digit] => [digit]
    | digit :: rest => digit :: '.' :: rest
  fraction ++ 'e' :: (sign ++ digitText power.natAbs)

/-- Writes a positive decimal in a layout. -/
def write (layout : Layout) (number : Decimal) : List Char :=
  let digits := digitText number.digits
  let point := number.exponent + digits.length
  match layout.pointRange with
  | none => positional layout digits number.exponent
  | some (least, greatest) =>
    if least ≤ point ∧ point ≤ greatest then positional layout digits number.exponent
    else scientific digits number.exponent

/-- The quotient rounded to the nearest whole number, a tie to the even one. -/
def roundDiv (numerator denominator : Nat) : Nat :=
  let quotient := numerator / denominator
  let twice := 2 * (numerator % denominator)
  if twice < denominator then quotient
  else if denominator < twice then quotient + 1
  else quotient + quotient % 2

/-- Writes a count of hundredths with two places. -/
def writeHundredths (hundredths : Nat) : List Char :=
  let places := hundredths % 100
  digitText (hundredths / 100) ++ '.' ::
    (if places < 10 then '0' :: digitText places else digitText places)

end Decimal

/-! ### The texts of doubles -/

namespace Double

open Float.Model.UnpackedFloat (Sign)

/-- The minus sign of a negative double, of a negative zero too. -/
def signText : Sign → List Char
  | .negative => ['-']
  | .positive => []

/-- Writes a double in a layout. -/
def write (layout : Decimal.Layout) (x : Float) : String :=
  String.ofList <| match x.toModel.unpack with
    | .notANumber => ['N', 'a', 'N']
    | .infinity sign => signText sign ++ ['i', 'n', 'f']
    | .zero sign => signText sign ++ '0' :: layout.wholeSuffix
    | .finite sign mantissa exponent _ =>
      signText sign ++ Decimal.write layout (Decimal.shortest layout.tie mantissa exponent)

/-- The plain text of a double. -/
def text (x : Float) : String := write .plain x

/-- The literal text of a double. -/
def literal (x : Float) : String := write .literal x

/-- The document text of a double. -/
def document (x : Float) : String := write .document x

/-- The hundredths nearest to `mantissa · 2 ^ exponent`. -/
def hundredthsOf (mantissa : Nat) (exponent : Int) : Nat :=
  Decimal.roundDiv (100 * mantissa <<< exponent.toNat) (1 <<< (-exponent).toNat)

/-- A double with exactly two places. -/
def hundredths (x : Float) : String :=
  String.ofList <| match x.toModel.unpack with
    | .notANumber => ['N', 'a', 'N']
    | .infinity sign => signText sign ++ ['i', 'n', 'f']
    | .zero sign => signText sign ++ Decimal.writeHundredths 0
    | .finite sign mantissa exponent _ =>
      signText sign ++ Decimal.writeHundredths (hundredthsOf mantissa exponent)

end Double

end ReleasePlayer
