/-
This file reads the library over an exact ordered field. Every operation is the one of the field,
every number is finite, and the operations derived from them are the familiar ones: keeping a number
within bounds is taking a maximum and a minimum, and the distance of two numbers is the absolute
value of their difference. Powers of ten and decimal texts stay open, since a field need not have
either.
-/

import Mathlib.Algebra.Order.Field.Basic
import Mathlib.Algebra.Order.Floor.Semiring
import Mathlib.Data.Rat.Floor
import Mathlib.Tactic.Linarith
import Mathlib.Tactic.NormNum
import Mathlib.Tactic.NormNum.OfScientific
import ReleasePlayer.Scalar

namespace ReleasePlayer

/-- An exact field of numbers to measure with. -/
class Exact (K : Type) extends Field K, LinearOrder K, IsStrictOrderedRing K, FloorRing K where
  /-- Ten to the power of the value. -/
  tenTo : K → K
  tenTo_pos : ∀ x, 0 < tenTo x
  /-- The decimal text of a value. -/
  text : K → String
  /-- The decimal text with two places. -/
  hundredths : K → String
  /-- Reads a decimal text. -/
  read : String → Option K

instance (K : Type) [Exact K] : Scalar K where
  toOfScientific := NNRatCast.toOfScientific
  decideLT := fun a b => inferInstanceAs (Decidable (a < b))
  decideLE := fun a b => inferInstanceAs (Decidable (a ≤ b))
  isFinite _ := true
  floor x := (⌊x⌋ : K)
  wholePart x := ⌊x⌋₊
  tenTo := Exact.tenTo
  text := Exact.text
  hundredths := Exact.hundredths
  read := Exact.read

/-- Rational numbers, with the powers of ten that have a whole exponent. -/
instance : Exact ℚ where
  tenTo x := 10 ^ ⌊x⌋
  tenTo_pos x := zpow_pos (by norm_num) _
  text x := toString x
  hundredths x := toString x
  read text := text.toInt?.map Int.cast

namespace Exact

variable {K : Type} [Exact K]

/-! ### Literals -/

theorem zero_literal : (0.0 : K) = 0 := by
  show (NNRatCast.toOfScientific : OfScientific K).ofScientific 0 true 1 = 0
  norm_num

theorem one_literal : (1.0 : K) = 1 := by
  show (NNRatCast.toOfScientific : OfScientific K).ofScientific 10 true 1 = 1
  norm_num

theorem three_halves_literal : (1.5 : K) = 3 / 2 := by
  show (NNRatCast.toOfScientific : OfScientific K).ofScientific 15 true 1 = 3 / 2
  norm_num

theorem twentieth_literal : (0.05 : K) = 1 / 20 := by
  show (NNRatCast.toOfScientific : OfScientific K).ofScientific 5 true 2 = 1 / 20
  norm_num

/-! ### Derived operations -/

theorem isFinite_eq (x : K) : Scalar.isFinite x = true := rfl

theorem same_eq (a b : K) : Scalar.same a b = decide (a = b) := by
  unfold Scalar.same
  rw [← Bool.decide_and, decide_eq_decide]
  exact le_antisymm_iff.symm

theorem clamp_eq {lo hi : K} (bounds : lo ≤ hi) (x : K) :
    Scalar.clamp lo hi x = max lo (min hi x) := by
  unfold Scalar.clamp
  dsimp only
  split
  · rename_i below
    rw [if_neg (not_lt.mpr bounds), max_eq_left ((min_le_right hi x).trans below.le)]
  · rename_i above
    split
    · rename_i beyond
      rw [min_eq_left beyond.le, max_eq_right bounds]
    · rename_i within
      rw [min_eq_right (not_lt.mp within), max_eq_right (not_lt.mp above)]

theorem atLeastZero_eq (x : K) : Scalar.atLeastZero x = max 0 x := by
  unfold Scalar.atLeastZero
  rw [zero_literal]
  split
  · rename_i nonneg
    exact (max_eq_right nonneg).symm
  · rename_i negative
    exact (max_eq_left (not_le.mp negative).le).symm

theorem clampUnit_eq (x : K) : Scalar.clampUnit x = max 0 (min 1 x) := by
  unfold Scalar.clampUnit
  rw [if_pos le_rfl, zero_literal, one_literal, clamp_eq zero_le_one]

theorem distance_eq (a b : K) : Scalar.distance a b = |a - b| := by
  unfold Scalar.distance
  dsimp only
  rw [zero_literal, zero_sub]
  split
  · rename_i negative
    exact (abs_of_neg negative).symm
  · rename_i nonneg
    exact (abs_of_nonneg (not_lt.mp nonneg)).symm

end Exact

end ReleasePlayer
