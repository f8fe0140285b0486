/-
This file proves that counting the whole seconds of a double is taking the floor of the number that the
double stands for. A double holds its number as a mantissa that is shifted by an exponent, and the whole
part is what is left of the mantissa after the shift; a fraction that is shifted out is cut off, and what
is below zero counts as zero. Doubles that are not negative are in the order of their numbers, so a later
time has at least as many whole seconds.
-/

import Mathlib.Data.Rat.Floor
import ReleasePlayer.Proofs.Double.Monotone
import ReleasePlayer.Scalar.Double

namespace ReleasePlayer

namespace Double

open Float.Model Float.Model.UnpackedFloat

/-- The number that a finite double stands for; an infinite or undefined one stands for zero. -/
def number (x : Float) : ℚ :=
  match x.toModel.unpack with
  | .finite .positive mantissa exponent _ => mantissa * 2 ^ exponent
  | .finite .negative mantissa exponent _ => -(mantissa * 2 ^ exponent)
  | _ => 0

variable {x y : Float} {amount : Nat}

/-! ### Whole parts -/

theorem two_zpow (exponent : Int) :
    (2 : ℚ) ^ exponent = 2 ^ exponent.toNat / 2 ^ (-exponent).toNat := by
  conv_lhs => rw [← Int.toNat_sub_toNat_neg exponent]
  rw [zpow_sub₀ two_ne_zero, zpow_natCast, zpow_natCast]

/-- What is left of a mantissa after the shift is the floor of its number. -/
theorem floor_finite (mantissa : Nat) (exponent : Int) :
    ⌊(mantissa * 2 ^ exponent : ℚ)⌋₊ = mantissa <<< exponent.toNat >>> (-exponent).toNat := by
  have quotient : (mantissa * 2 ^ exponent : ℚ) =
      (mantissa * 2 ^ exponent.toNat : Nat) / (2 ^ (-exponent).toNat : Nat) := by
    rw [two_zpow, ← mul_div_assoc]
    push_cast
    rfl
  rw [quotient, Nat.floor_div_eq_div, Nat.shiftLeft_eq, Nat.shiftRight_eq_div_pow]

theorem wholePart_eq_floor (x : Float) : wholePart x = ⌊max (number x) 0⌋₊ := by
  unfold wholePart number
  split
  · rename_i mantissa exponent positive found
    rw [found]
    dsimp only
    rw [max_eq_left (by positivity), floor_finite]
  · rename_i notPositive
    split
    · rename_i mantissa exponent positive found
      exact absurd found (notPositive mantissa exponent positive)
    · rename_i mantissa exponent positive found
      rw [max_eq_right (neg_nonpos.mpr (by positivity)), Nat.floor_zero]
    · rw [max_self, Nat.floor_zero]

theorem wholePart_of_negative (negative : ¬ 0.0 ≤ x) : wholePart x = 0 := by
  unfold wholePart
  split
  · rename_i found
    exact absurd (zero_le_iff.mpr (by rw [found]; trivial)) negative
  · rfl

/-! ### Numbers and the order -/

theorem cast_one : ((one : Nat) : ℚ) = 2 ^ 1074 := by
  have place : (0 + 1074 : Int).toNat = 1074 := rfl
  unfold one up
  rw [place, Nat.cast_pow, Nat.cast_ofNat]

/-- The number of a double is its amount, measured in ones. -/
theorem Measures.number_eq (measures : Measures x amount) : number x = amount / one := by
  unfold number
  rcases measures.cases with ⟨sign, found, rfl⟩ | ⟨mantissa, exponent, positive, found, canonical, rfl⟩
  · rw [found, Nat.cast_zero, zero_div]
  · have shift : (2 : ℚ) ^ exponent * 2 ^ 1074 = 2 ^ (exponent + 1074).toNat := by
      have least := canonical.least
      rw [← zpow_natCast, ← zpow_natCast, ← zpow_add₀ two_ne_zero]
      congr 1
      omega
    rw [found, cast_one]
    unfold units
    dsimp only
    rw [eq_div_iff (by positivity), mul_assoc, shift]
    push_cast
    rfl

theorem number_nonneg (nonneg : 0.0 ≤ x) : 0 ≤ number x := by
  by_cases finite : x.isFinite = true
  · obtain ⟨amount, measures⟩ := exists_measures nonneg finite
    rw [measures.number_eq]
    positivity
  · have infinite := unpack_of_not_isFinite nonneg finite
    unfold number
    rw [infinite]

theorem Measures.number_le_iff {amount' : Nat} (left : Measures x amount)
    (right : Measures y amount') : number x ≤ number y ↔ x ≤ y := by
  have positive : (0 : ℚ) < one := Nat.cast_pos.mpr one_pos
  rw [left.number_eq, right.number_eq, div_le_div_iff_of_pos_right positive, Nat.cast_le,
    left.le_iff right]

/-- Doubles that are finite and not negative are in the order of their numbers. -/
theorem number_le_iff (nonneg : 0.0 ≤ x) (nonneg' : 0.0 ≤ y) (finite : x.isFinite = true)
    (finite' : y.isFinite = true) : number x ≤ number y ↔ x ≤ y := by
  obtain ⟨amount, left⟩ := exists_measures nonneg finite
  obtain ⟨amount', right⟩ := exists_measures nonneg' finite'
  exact left.number_le_iff right

theorem wholePart_mono (nonneg : 0.0 ≤ x) (le : x ≤ y) (finite : y.isFinite = true) :
    wholePart x ≤ wholePart y := by
  obtain ⟨amount, amount', left, right, amounts⟩ := exists_measures_of_le nonneg le finite
  rw [wholePart_eq_floor, wholePart_eq_floor]
  exact Nat.floor_mono (max_le_max_right 0 ((left.number_le_iff right).mpr le))

/-- The whole part is below a whole number just if the double is. -/
theorem wholePart_lt_iff {bound : Float} {count : Nat} (nonneg : 0.0 ≤ x)
    (finite : x.isFinite = true) (boundNonneg : 0.0 ≤ bound) (boundFinite : bound.isFinite = true)
    (whole : number bound = count) : wholePart x < count ↔ x < bound := by
  have above := number_nonneg nonneg
  rw [wholePart_eq_floor, max_eq_left above, Nat.floor_lt above, ← whole, lt_iff_le_not_ge,
    number_le_iff nonneg boundNonneg finite boundFinite,
    number_le_iff boundNonneg nonneg boundFinite finite, float_lt_iff]

end Double

end ReleasePlayer
