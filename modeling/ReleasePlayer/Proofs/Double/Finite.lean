/-
This file proves that the arithmetic of reading a number stays among the finite doubles. A count of 64 bits
is finite, and so are the powers of ten that it is scaled with. Division by such a power makes nothing
greater; a product with one may turn out infinite, but it is never undefined, and a reader that refuses the
one has nothing to fear from the other.
-/

import ReleasePlayer.Proofs.Double.Monotone
import ReleasePlayer.Proofs.Double.ReadBack

namespace ReleasePlayer

namespace Double

open Float.Model Float.Model.UnpackedFloat

variable {x y : Float}

/-- A fraction that is at most a double is rounded to a double. -/
theorem nearest_lt_limit {numerator denominator mantissa : Nat} {exponent : Int}
    (positive : 0 < denominator) (small : mantissa < 2 ^ 53) (least : -1074 ≤ exponent)
    (fits : exponent ≤ 971) (le : numerator ≤ units mantissa exponent * denominator) :
    nearest numerator denominator < limit := by
  have order : nearest numerator denominator ≤
      nearest (units mantissa exponent * denominator) denominator :=
    nearest_mono positive positive (Nat.mul_le_mul_right _ le)
  rw [nearest_of_small small least positive] at order
  exact Nat.lt_of_le_of_lt order (units_lt_limit small fits)

theorem isFinite_ofCount (count : Nat) : (UInt64.ofNat count).toFloat.isFinite = true := by
  have amounts := amounts_ofNat (UInt64.ofNat count).toNat
  refine amounts.isFinite_iff.mpr
    (@nearest_lt_limit _ _ 1 (64 : Nat) Nat.one_pos (by decide) (by decide) (by decide) ?_)
  have small : (UInt64.ofNat count).toNat ≤ 2 ^ 64 := Nat.le_of_lt (UInt64.toNat_lt _)
  rw [units_natCast, Nat.mul_one, Nat.one_mul]
  exact Nat.mul_le_mul_right one small

theorem isFinite_neg (finite : x.isFinite = true) : (-x).isFinite = true := by
  obtain ⟨sign, amount, below, amounts⟩ := exists_amounts finite
  exact (amounts_neg amounts).isFinite_iff.mpr below

/-- A product of finite doubles that is not infinite is finite. -/
theorem isFinite_mul (left : x.isFinite = true) (right : y.isFinite = true)
    (notInfinite : (x * y).isInf = false) : (x * y).isFinite = true := by
  obtain ⟨sign, amount, below, amounts⟩ := exists_amounts left
  obtain ⟨sign', amount', below', amounts'⟩ := exists_amounts right
  have product := amounts_mul amounts amounts' below below'
  by_contra infinite
  have found := product.eq_infinity infinite
  have notInfinite : (x * y).toModel.unpack.isInf = false := notInfinite
  rw [found] at notInfinite
  cases notInfinite

/-! ### Powers of ten -/

/-- The powers of ten that are doubles, rounded, are at least one. -/
theorem amounts_powerOfTen {place : Nat} (within : place ≤ 308) :
    ∃ amount, one ≤ amount ∧ amount < limit ∧
      Amounts .positive amount (Float.ofScientific 1 false place).toModel.unpack := by
  have amounts : Amounts .positive (nearest (numeratorOf 1 place) (denominatorOf place))
      (Float.ofScientific 1 false place).toModel.unpack := by
    have whole : ((place : Int) < 0) = False := eq_false (by omega)
    have made := @amounts_ofScientific 1 place Nat.one_pos (by omega) (by omega)
    simpa only [whole, decide_false, Int.natAbs_natCast] using made
  have numerator : numeratorOf 1 place = 10 ^ place * one := by
    unfold numeratorOf
    rw [Nat.one_mul, Int.toNat_natCast]
  have denominator : denominatorOf place = 1 := by
    unfold denominatorOf
    rw [Int.toNat_neg_natCast, Nat.pow_zero]
  rw [numerator, denominator] at amounts
  refine ⟨_, ?_, ?_, amounts⟩
  · have exact : nearest (units 1 0 * 1) 1 = units 1 0 :=
      nearest_of_small (by decide) (by decide) Nat.one_pos
    have unit : units 1 0 = one := Nat.one_mul _
    rw [unit] at exact
    have order : nearest (one * 1) 1 ≤ nearest (10 ^ place * one) 1 := by
      refine nearest_mono Nat.one_pos Nat.one_pos (Nat.mul_le_mul_right 1 ?_)
      exact Nat.le_trans (Nat.mul_one one).le (Nat.le_mul_of_pos_left one (Nat.pow_pos (by decide)))
    rwa [exact] at order
  · refine @nearest_lt_limit _ _ (2 ^ 53 - 1) (971 : Nat) Nat.one_pos (by decide) (by decide)
      (by decide) ?_
    have greatest : 10 ^ 308 ≤ (2 ^ 53 - 1) * 2 ^ 971 := by decide +kernel
    have powers : 10 ^ place ≤ 10 ^ 308 := pow_le_pow_right₀ (by decide) within
    rw [units_natCast, Nat.mul_one]
    exact Nat.mul_le_mul_right one (powers.trans greatest)

theorem isFinite_powerOfTen {place : Nat} (within : place ≤ 308) :
    (Float.ofScientific 1 false place).isFinite = true := by
  obtain ⟨amount, -, below, amounts⟩ := amounts_powerOfTen within
  exact amounts.isFinite_iff.mpr below

/-- The amount of a double is not rounded any further. -/
theorem Amounts.nearest {sign : Sign} {amount : Nat} {found : UnpackedFloat}
    (amounts : Amounts sign amount found) (below : amount < limit) : nearest amount 1 = amount := by
  rcases amounts.cases below with ⟨-, rfl⟩ | ⟨mantissa, exponent, -, -, canonical, rfl⟩
  · exact nearest_zero Nat.one_pos
  · have same := nearest_units canonical Nat.one_pos
    rwa [Nat.mul_one] at same

/-- What is divided by a power of ten does not become greater. -/
theorem isFinite_div_powerOfTen {place : Nat} (within : place ≤ 308) (finite : x.isFinite = true) :
    (x / Float.ofScientific 1 false place).isFinite = true := by
  obtain ⟨sign, amount, below, amounts⟩ := exists_amounts finite
  obtain ⟨unit, least, unitBelow, power⟩ := amounts_powerOfTen within
  have positive : 0 < unit := Nat.lt_of_lt_of_le one_pos least
  refine (amounts_div amounts power below unitBelow positive).isFinite_iff.mpr ?_
  have order : nearest (amount * one) unit ≤ nearest amount 1 := by
    refine nearest_mono positive Nat.one_pos ?_
    rw [Nat.mul_one]
    exact Nat.mul_le_mul_left amount least
  rw [amounts.nearest below] at order
  exact Nat.lt_of_le_of_lt order below

end Double

end ReleasePlayer
