/-
This file finds the fewest decimal digits that read back as a given double. A positive double is
`mantissa · 2 ^ exponent`; the real numbers that round to it form an interval around it, whose ends
belong to it exactly when the mantissa is even. For one, two, … seventeen digits the value has two
neighbours on the grid of decimals with so many digits, and the first grid with a neighbour in the
interval gives the answer: the nearer neighbour, and of two equally near the one that the reader of
the text expects. Everything is done with natural numbers, so nothing is ever rounded on the way.
-/

namespace ReleasePlayer

/-- The number `digits · 10 ^ exponent`. -/
structure Decimal where
  digits : Nat
  exponent : Int
deriving DecidableEq, Repr

namespace Decimal

/-- Moves trailing zeros of the digits into the exponent, at most `fuel` of them. -/
def dropZeros : Nat → Decimal → Decimal
  | 0, number => number
  | fuel + 1, number =>
    if number.digits % 10 = 0 ∧ number.digits ≠ 0 then
      dropZeros fuel ⟨number.digits / 10, number.exponent + 1⟩
    else number

/-- A positive double with its rounding interval, in quarters of the unit in the last place. -/
structure Interval where
  /-- The quarter of a unit in the last place is `2 ^ quarter`. -/
  quarter : Int
  low : Nat
  value : Nat
  high : Nat
  /-- Whether the ends read back as the value too. -/
  closed : Bool
deriving Repr

/-- The interval of `mantissa · 2 ^ exponent`. Below a power of two the doubles lie twice as close,
except at the bottom of the range. -/
def Interval.ofBinary (mantissa : Nat) (exponent : Int) : Interval where
  quarter := exponent - 2
  low := if mantissa = 1 <<< 52 ∧ exponent ≠ -1074 then 4 * mantissa - 1 else 4 * mantissa - 2
  value := 4 * mantissa
  high := 4 * mantissa + 2
  closed := mantissa % 2 = 0

/-- Both sides of a comparison between quarters of a unit and units `10 ^ place`, each multiplied
until it is whole: the first factor belongs to the quarters, the second to the decimals. -/
def Interval.scales (interval : Interval) (place : Int) : Nat × Nat :=
  (Nat.pow 10 (-place).toNat <<< interval.quarter.toNat,
    Nat.pow 10 place.toNat <<< (-interval.quarter).toNat)

/-- Whether `count · 10 ^ place` reads back as the value. -/
def Interval.contains (interval : Interval) (place : Int) (count : Nat) : Bool :=
  let (binary, decimal) := interval.scales place
  let point := count * decimal
  if interval.closed then
    decide (interval.low * binary ≤ point) && decide (point ≤ interval.high * binary)
  else
    decide (interval.low * binary < point) && decide (point < interval.high * binary)

/-- Which of two equally near decimals is taken. -/
inductive Tie where
  | up
  | even
deriving DecidableEq, Repr

/-- The neighbour of the value on the grid of step `10 ^ place` that reads back as the value, the
nearer one if both do. -/
def Interval.onGrid (tie : Tie) (interval : Interval) (place : Int) : Option Decimal :=
  let (binary, decimal) := interval.scales place
  let value := interval.value * binary
  let below := value / decimal
  let above := below + 1
  match interval.contains place below && decide (0 < below), interval.contains place above with
  | true, true =>
    let fromBelow := value - below * decimal
    let toAbove := above * decimal - value
    if fromBelow < toAbove ∨ (fromBelow = toAbove ∧ tie = .even ∧ below % 2 = 0) then
      some ⟨below, place⟩
    else some ⟨above, place⟩
  | true, false => some ⟨below, place⟩
  | false, true => some ⟨above, place⟩
  | false, false => none

/-- The number `k` with `10 ^ (k - 1) ≤ mantissa · 2 ^ exponent < 10 ^ k`. The binary logarithm
gives it up to one, and a comparison settles which. -/
def pointPosition (mantissa : Nat) (exponent : Int) : Int :=
  let estimate := Int.fdiv ((mantissa.log2 + exponent) * 30103) 100000
  let (binary, decimal) := (Interval.mk exponent 0 0 0 false).scales (estimate + 1)
  if decimal ≤ mantissa * binary then estimate + 2 else estimate + 1

/-- The first of `more` grids, the coarsest with `count` digits, on which the value has a neighbour
that reads back. -/
def coarsest (tie : Tie) (interval : Interval) (position : Int) : Nat → Nat → Option Decimal
  | 0, _ => none
  | more + 1, count =>
    match interval.onGrid tie (position - count) with
    | some number => some number
    | none => coarsest tie interval position more (count + 1)

/-- All the digits of `mantissa · 2 ^ exponent`. -/
def exact (mantissa : Nat) (exponent : Int) : Decimal :=
  ⟨mantissa <<< exponent.toNat * Nat.pow 5 (-exponent).toNat, min exponent 0⟩

/-- The decimal of fewest digits that reads back as `mantissa · 2 ^ exponent`; seventeen digits
suffice for every double. -/
def shortest (tie : Tie) (mantissa : Nat) (exponent : Int) : Decimal :=
  let interval := Interval.ofBinary mantissa exponent
  let position := pointPosition mantissa exponent
  dropZeros 20 ((coarsest tie interval position 17 1).getD (exact mantissa exponent))

end Decimal

end ReleasePlayer
