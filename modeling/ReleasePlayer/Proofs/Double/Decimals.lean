/-
This file gives the amounts of whole numbers and decimals that are turned into doubles. Whatever way is
taken, by doubles that are exact or by the digits themselves, what comes of it is the double nearest to
the decimal.
-/

import ReleasePlayer.Proofs.Double.Products

namespace ReleasePlayer

namespace Double

open Float.Model Float.Model.UnpackedFloat

/-! ### Whole numbers -/

/-- Rounding writes a number with more digits first, if it has too few. -/
theorem amounts_round (sign : Sign) {mantissa : Nat} {exponent : Int} (positive : 0 < mantissa) :
    Amounts sign (nearest (mantissa * up exponent) (down exponent))
      (repacked (round Format.binary64 sign mantissa exponent)) := by
  unfold UnpackedFloat.round decreaseExponent
  dsimp only
  have made := targetExponent_eq mantissa exponent
  generalize Format.binary64.targetExponent (totalExponent mantissa exponent) = target at *
  generalize counted : (exponent - target).toNat = count
  have enough : exponent - count ≤ Format.binary64.targetExponent
      (totalExponent (mantissa <<< count) (exponent - count)) := by
    rw [targetExponent_eq, log2_shiftLeft positive]
    omega
  have digits : exponent - count + (count : Nat) = exponent + (0 : Nat) := by omega
  have same : nearest (mantissa <<< count * up (exponent - count)) (down (exponent - count)) =
      nearest (mantissa * up exponent) (down exponent) := by
    refine nearest_congr (down_pos _) (down_pos _) ?_
    have exchanged := two_pow_mul_up digits
    rw [Nat.pow_zero, Nat.one_mul] at exchanged
    rw [Nat.shiftLeft_eq, Nat.mul_assoc mantissa, Nat.mul_assoc mantissa, exchanged, ← Nat.mul_assoc]
  rw [← same]
  exact amounts_roundWithAccuracy_exact sign enough

theorem amounts_ofNat (count : Nat) :
    Amounts .positive (nearest (count * one) 1) (repacked (UnpackedFloat.ofNat Format.binary64 count)) := by
  unfold UnpackedFloat.ofNat UnpackedFloat.ofInt
  rcases Nat.eq_zero_or_pos count with rfl | positive
  · rw [Nat.zero_mul, nearest_zero Nat.one_pos]
    show Amounts _ _ (repacked (.zero .positive))
    rw [repacked_zero]
    exact ⟨rfl, rfl⟩
  · rw [normalize_of_pos positive]
    exact amounts_round .positive positive

/-- A whole number of at most 53 binary digits is a double. -/
theorem amounts_toFloat {count : Nat} (small : count < 2 ^ 53) :
    Amounts .positive (count * one) count.toUInt64.toFloat.toModel.unpack := by
  have kept : count.toUInt64.toNat = count := Nat.mod_eq_of_lt (Nat.lt_trans small (by decide))
  have amounts := amounts_ofNat count
  have exact : nearest (units count 0 * 1) 1 = units count 0 :=
    nearest_of_small small (by decide) Nat.one_pos
  rw [Nat.mul_one] at exact
  rw [show count * one = units count 0 from rfl, exact] at amounts
  have unpacked : count.toUInt64.toFloat.toModel.unpack =
      repacked (UnpackedFloat.ofNat Format.binary64 count.toUInt64.toNat) := rfl
  rw [unpacked, kept]
  exact amounts

/-! ### Powers of ten -/

theorem powersOfTen_eq : ∀ place : Fin 23, Float.exactlyRepresentablePowersOfTen[place] =
    Float.ofModel (.ofNat (10 ^ place.val)) := by
  decide +kernel

theorem units_natCast (mantissa count : Nat) :
    units mantissa count = mantissa * 2 ^ count * one := by
  unfold units one up
  rw [show ((count : Int) + 1074).toNat = count + (0 + 1074 : Int).toNat by omega, Nat.pow_add,
    ← Nat.mul_assoc]

/-- A power of ten is a power of five with another exponent. -/
theorem units_five_pow (place : Nat) : units (5 ^ place) place = 10 ^ place * one := by
  rw [units_natCast, ← Nat.mul_pow]

/-- The first powers of ten are doubles. -/
theorem amounts_powersOfTen (place : Fin 23) :
    10 ^ place.val * one < limit ∧ Amounts .positive (10 ^ place.val * one)
      Float.exactlyRepresentablePowersOfTen[place].toModel.unpack := by
  have five : 5 ^ place.val < 2 ^ 53 :=
    Nat.lt_of_le_of_lt (Nat.pow_le_pow_right (by decide) (Nat.le_of_lt_succ place.isLt)) (by decide)
  have amounts := amounts_ofNat (10 ^ place.val)
  have exact : nearest (units (5 ^ place.val) place * 1) 1 = units (5 ^ place.val) place :=
    nearest_of_small five (by omega) Nat.one_pos
  rw [Nat.mul_one, units_five_pow] at exact
  rw [exact] at amounts
  rw [powersOfTen_eq place]
  refine ⟨?_, amounts⟩
  rw [← units_five_pow]
  exact units_lt_limit five (by omega)

/-! ### Decimals -/

/-- The amount of `digits · 10 ^ exponent`, as a fraction. -/
def numeratorOf (digits : Nat) (exponent : Int) : Nat := digits * 10 ^ exponent.toNat * one

def denominatorOf (exponent : Int) : Nat := 10 ^ (-exponent).toNat

theorem denominatorOf_pos (exponent : Int) : 0 < denominatorOf exponent :=
  Nat.pow_pos (by decide)

variable {digits : Nat} {exponent : Int}

/-- Few digits and a small exponent take one operation on doubles that are exact. -/
theorem amounts_ofScientific_fast (small : digits < 2 ^ 53) (near : exponent.natAbs ≤ 22) :
    Amounts .positive (nearest (numeratorOf digits exponent) (denominatorOf exponent))
      (Float.ofScientific digits (exponent < 0) exponent.natAbs).toModel.unpack := by
  have whole := amounts_toFloat small
  have below : units digits 0 < limit := units_lt_limit small (by decide)
  obtain ⟨powerBelow, power⟩ := amounts_powersOfTen ⟨exponent.natAbs, Nat.lt_succ_of_le near⟩
  unfold Float.ofScientific
  rw [dif_pos ⟨small, near⟩]
  dsimp only
  by_cases negative : exponent < 0
  · rw [if_pos (decide_eq_true negative)]
    have quotient := amounts_div whole power below powerBelow
      (Nat.mul_pos (Nat.pow_pos (by decide)) one_pos)
    have same : nearest (digits * one * one) (10 ^ exponent.natAbs * one) =
        nearest (numeratorOf digits exponent) (denominatorOf exponent) := by
      unfold numeratorOf denominatorOf
      rw [show exponent.toNat = 0 by omega, show (-exponent).toNat = exponent.natAbs by omega]
      refine nearest_congr (Nat.mul_pos (Nat.pow_pos (by decide)) one_pos) (Nat.pow_pos (by decide)) ?_
      ring
    rw [← same]
    exact quotient
  · rw [if_neg (by simpa using negative)]
    have product := amounts_mul whole power below powerBelow
    have same : nearest (digits * one * (10 ^ exponent.natAbs * one)) one =
        nearest (numeratorOf digits exponent) (denominatorOf exponent) := by
      unfold numeratorOf denominatorOf
      rw [show exponent.toNat = exponent.natAbs by omega, show (-exponent).toNat = 0 by omega]
      refine nearest_congr one_pos (Nat.pow_pos (by decide)) ?_
      ring
    rw [← same]
    exact product

/-- Other decimals are rounded from their digits. -/
theorem amounts_ofScientific_slow (positive : 0 < digits) (notHuge : exponent ≤ 2 ^ 11)
    (notTiny : -((2 ^ 11 : Int) + digits.log2) ≤ exponent) :
    Amounts .positive (nearest (numeratorOf digits exponent) (denominatorOf exponent))
      (repacked (UnpackedFloat.ofScientific Format.binary64 digits exponent)) := by
  unfold UnpackedFloat.ofScientific
  rw [dif_neg (Nat.ne_of_gt positive), if_neg (Int.not_lt.mpr notHuge),
    if_neg (Int.not_lt.mpr notTiny)]
  by_cases whole : 0 ≤ exponent
  · rw [if_pos whole]
    have long : 2 ^ 52 ≤ digits <<< 53 * 10 ^ exponent.toNat := by
      rw [Nat.shiftLeft_eq]
      have power : 0 < 10 ^ exponent.toNat := Nat.pow_pos (by decide)
      calc 2 ^ 52 ≤ 1 * 2 ^ 53 * 1 := by decide
        _ ≤ digits * 2 ^ 53 * 10 ^ exponent.toNat :=
          Nat.mul_le_mul (Nat.mul_le_mul_right _ positive) power
    have same : nearest (digits <<< 53 * 10 ^ exponent.toNat * up (-53 + 0)) (down (-53 + 0)) =
        nearest (numeratorOf digits exponent) (denominatorOf exponent) := by
      have exchanged : 2 ^ 53 * up (-53 + 0) = one * down (-53 + 0) := by
        unfold one up down
        rw [← Nat.pow_add, ← Nat.pow_add]
        exact congrArg (2 ^ ·) (by decide)
      unfold numeratorOf denominatorOf
      rw [show (-exponent).toNat = 0 by omega, Nat.shiftLeft_eq]
      refine nearest_congr (down_pos _) (Nat.pow_pos (by decide)) ?_
      calc digits * 2 ^ 53 * 10 ^ exponent.toNat * up (-53 + 0) * 10 ^ 0
          = digits * 10 ^ exponent.toNat * (2 ^ 53 * up (-53 + 0)) := by ring
        _ = digits * 10 ^ exponent.toNat * one * down (-53 + 0) := by
          rw [exchanged]
          ring
    rw [← same]
    exact amounts_mul_finite (Or.inl long)
  · rw [if_neg whole]
    have same : nearest (digits * up (0 - 0)) (10 ^ (-exponent).toNat * down (0 - 0)) =
        nearest (numeratorOf digits exponent) (denominatorOf exponent) := by
      unfold numeratorOf denominatorOf
      rw [show exponent.toNat = 0 by omega, Nat.pow_zero, Nat.mul_one, Int.sub_zero,
        down_of_le (by decide), Nat.mul_one]
      rfl
    rw [← same]
    exact amounts_div_finite

theorem amounts_ofScientific (positive : 0 < digits) (notHuge : exponent ≤ 2 ^ 11)
    (notTiny : -((2 ^ 11 : Int) + digits.log2) ≤ exponent) :
    Amounts .positive (nearest (numeratorOf digits exponent) (denominatorOf exponent))
      (Float.ofScientific digits (exponent < 0) exponent.natAbs).toModel.unpack := by
  by_cases fast : digits < 2 ^ 53 ∧ exponent.natAbs ≤ 22
  · exact amounts_ofScientific_fast fast.1 fast.2
  · have same : (if decide (exponent < 0) then Int.negOfNat exponent.natAbs
        else Int.ofNat exponent.natAbs) = exponent := by
      by_cases negative : exponent < 0
      · rw [if_pos (decide_eq_true negative), Int.negOfNat_eq]
        show -(exponent.natAbs : Int) = exponent
        omega
      · rw [if_neg (by simpa using negative)]
        exact Int.natAbs_of_nonneg (Int.not_lt.mp negative)
    unfold Float.ofScientific
    rw [dif_neg fast]
    dsimp only
    rw [same]
    exact amounts_ofScientific_slow positive notHuge notTiny

/-- The number of digits that a number is written with. -/
theorem pow_le_of_length (positive : 0 < digits) :
    10 ^ ((Nat.toDigits 10 digits).length - 1) ≤ digits := by
  rcases Nat.eq_zero_or_pos ((Nat.toDigits 10 digits).length - 1) with none | some
  · rw [none, Nat.pow_zero]
    exact positive
  · by_contra less
    have shorter := (Nat.length_toDigits_le_iff (by decide) some).mpr (Nat.lt_of_not_le less)
    omega

theorem lt_pow_of_length : digits < 10 ^ (Nat.toDigits 10 digits).length :=
  (Nat.length_toDigits_le_iff (by decide) Nat.length_toDigits_pos).mp (Nat.le_refl _)

/-- A decimal within the range is turned into the double nearest to it. -/
theorem amounts_ofDecimal (positive : 0 < digits)
    (notHuge : exponent + (Nat.toDigits 10 digits).length ≤ 310)
    (notTiny : -330 ≤ exponent + (Nat.toDigits 10 digits).length) :
    Amounts .positive (nearest (numeratorOf digits exponent) (denominatorOf exponent))
      (ofDecimal digits exponent).toModel.unpack := by
  have long : (Nat.toDigits 10 digits).length - 1 ≤ digits.log2 := by
    refine (Nat.le_log2 (Nat.ne_of_gt positive)).mpr (Nat.le_trans ?_ (pow_le_of_length positive))
    exact Nat.pow_le_pow_left (by decide) _
  unfold ofDecimal
  dsimp only
  rw [if_neg (Nat.ne_of_gt positive), if_neg (Int.not_lt.mpr notHuge),
    if_neg (Int.not_lt.mpr notTiny)]
  exact amounts_ofScientific positive (by omega) (by omega)

end Double

end ReleasePlayer
