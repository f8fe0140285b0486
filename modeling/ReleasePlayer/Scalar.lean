/-
This file fixes what the library asks of its numbers. Times, volumes and pixels are all measured
in one type `α`, and every rule about them is written once over the class `Scalar α`: the program
runs on doubles, and the same rules can be read over an exact ordered field. The operations derived
here (`clamp`, `clampUnit`, `atLeastZero`, `same`) say what happens to a value that compares with
nothing, so that no rule further up has to.
-/

namespace ReleasePlayer

/-- A type of numbers to measure with: arithmetic, order, decimal literals, and the texts by which
numbers enter and leave the program. -/
class Scalar (α : Type) extends Add α, Sub α, Mul α, Div α, LT α, LE α, OfScientific α where
  /-- The order can be decided. -/
  decideLT : (a b : α) → Decidable (a < b)
  /-- The order can be decided. -/
  decideLE : (a b : α) → Decidable (a ≤ b)
  /-- Neither infinite nor undefined. -/
  isFinite : α → Bool
  /-- The greatest whole number that is not above the value. -/
  floor : α → α
  /-- The floor as a count; zero for what is negative or not finite. -/
  wholePart : α → Nat
  /-- Ten to the power of the value. -/
  tenTo : α → α
  /-- The decimal text of a value, with as many digits as it takes to read it back. -/
  text : α → String
  /-- The decimal text with exactly two places. -/
  hundredths : α → String
  /-- Reads a decimal text. -/
  read : String → Option α

namespace Scalar

variable {α : Type} [Scalar α]

instance (a b : α) : Decidable (a < b) := Scalar.decideLT a b

instance (a b : α) : Decidable (a ≤ b) := Scalar.decideLE a b

/-- Equality of numbers: each is at most the other. Zeros of either sign are the same, and an
undefined value is not even the same as itself. -/
def same (a b : α) : Bool := decide (a ≤ b) && decide (b ≤ a)

/-- Keeps `x` within `lo` and `hi`. An undefined `x` stays undefined. -/
def clamp (lo hi x : α) : α :=
  let raised := if x < lo then lo else x
  if hi < raised then hi else raised

/-- Keeps `x` within `lo` and `hi` where these bound an interval at all. -/
def clamp? (lo hi x : α) : Option α :=
  if lo ≤ hi then some (clamp lo hi x) else none

/-- Replaces what is negative or undefined by zero. -/
def atLeastZero (x : α) : α := if (0.0 : α) ≤ x then x else 0.0

/-- Keeps a fraction within `0` and `1`; an undefined one, as of an empty bar, reads as `0`. -/
def clampUnit (x : α) : α := if x ≤ x then clamp 0.0 1.0 x else 0.0

/-- The distance between two numbers. -/
def distance (a b : α) : α :=
  let difference := a - b
  if difference < 0.0 then 0.0 - difference else difference

end Scalar

end ReleasePlayer
