/-
This file lets the library measure in doubles. The powers of ten that leave the range of doubles
are spelled out, so that it can be said what becomes of an album far too quiet or far too loud.
-/

import ReleasePlayer.Scalar
import ReleasePlayer.Decimal.Layout
import ReleasePlayer.Decimal.Reading

namespace ReleasePlayer

namespace Double

/-- Ten to the power of a double: infinite from `10 ^ 309` on, zero below `10 ^ -324`. -/
def tenTo (x : Float) : Float :=
  if 309.0 ≤ x then infinity
  else if x ≤ -324.0 then 0.0
  else Float.pow 10.0 x

/-- The floor of a double as a count; zero for what is negative or not finite. -/
def wholePart (x : Float) : Nat :=
  match x.toModel.unpack with
  | .finite .positive mantissa exponent _ =>
    mantissa <<< exponent.toNat >>> (-exponent).toNat
  | _ => 0

end Double

/-- Doubles as numbers to measure with. -/
instance : Scalar Float where
  decideLT := Float.decLt
  decideLE := Float.decLe
  isFinite := Float.isFinite
  floor := Float.floor
  wholePart := Double.wholePart
  tenTo := Double.tenTo
  text := Double.text
  hundredths := Double.hundredths
  read := Double.read

end ReleasePlayer
