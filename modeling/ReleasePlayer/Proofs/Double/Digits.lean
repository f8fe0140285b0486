/-
This file proves that the fewest digits of a double are read as that double. Whatever grid they are found
on, they lie in the interval of the numbers that are rounded to the double; and if no grid has any, all
digits are taken, which say the double itself. Where a decimal lies does not depend on how it is written,
so zeros may be moved between the digits and the exponent.
-/

import ReleasePlayer.Proofs.Double.Decimals

namespace ReleasePlayer

namespace Double

open Float.Model Float.Model.UnpackedFloat

/-! ### Where a decimal lies -/

/-- A decimal that is not zero lies in the interval of a double. -/
structure Fits (mantissa : Nat) (exponent : Int) (number : Decimal) : Prop where
  positive : 0 < number.digits
  near : Near mantissa exponent (numeratorOf number.digits number.exponent)
    (denominatorOf number.exponent * 2 ^ (exponent + 1074).toNat)

variable {mantissa : Nat} {exponent : Int} {number : Decimal}

theorem unit_pos (place exponent : Int) :
    0 < denominatorOf place * 2 ^ (exponent + 1074).toNat :=
  Nat.mul_pos (denominatorOf_pos place) (Nat.two_pow_pos _)

/-- How a decimal is written does not matter. -/
theorem Fits.congr {other : Decimal} (fits : Fits mantissa exponent number)
    (positive : 0 < other.digits)
    (same : numeratorOf number.digits number.exponent * denominatorOf other.exponent =
      numeratorOf other.digits other.exponent * denominatorOf number.exponent) :
    Fits mantissa exponent other where
  positive := positive
  near := by
    refine fits.near.congr (unit_pos _ _) (unit_pos _ _) ?_
    rw [← Nat.mul_assoc, ← Nat.mul_assoc, same]

/-! ### The digits that are found -/

open Decimal in
theorem near_of_contains {place : Int} {count : Nat} (positive : 0 < mantissa)
    (contained : (Interval.ofBinary mantissa exponent).contains place count = true) :
    Near mantissa exponent
      (count * ((Interval.ofBinary mantissa exponent).scales place).2)
      (4 * ((Interval.ofBinary mantissa exponent).scales place).1) := by
  have power : (1 <<< 52 : Nat) = 2 ^ 52 := rfl
  unfold Interval.contains at contained
  dsimp only at contained
  generalize ((Interval.ofBinary mantissa exponent).scales place).1 = binary at *
  generalize count * ((Interval.ofBinary mantissa exponent).scales place).2 = point at *
  simp only [Interval.ofBinary, power] at contained
  have high : (4 * mantissa + 2) * binary = 4 * (mantissa * binary) + 2 * binary := by ring
  have low : (4 * mantissa - 2) * binary = 4 * (mantissa * binary) - 2 * binary := by
    rw [Nat.sub_mul, Nat.mul_assoc]
  have tight : (4 * mantissa - 1) * binary = 4 * (mantissa * binary) - binary := by
    rw [Nat.sub_mul, Nat.mul_assoc, Nat.one_mul]
  have fourfold : mantissa * (4 * binary) = 4 * (mantissa * binary) := by ring
  have some : binary ≤ mantissa * binary := Nat.le_mul_of_pos_left _ positive
  split at contained
  · rename_i even
    have even := of_decide_eq_true even
    rw [Bool.and_eq_true, decide_eq_true_iff, decide_eq_true_iff, high] at contained
    obtain ⟨left, right⟩ := contained
    split at left
    · rw [tight] at left
      constructor <;> omega
    · rename_i notTight
      rw [low] at left
      refine ⟨by omega, fun power notLeast => absurd ⟨power, notLeast⟩ notTight, by omega, ?_⟩
      omega
  · rename_i odd
    have odd : ¬ mantissa % 2 = 0 := fun even => odd (decide_eq_true even)
    rw [Bool.and_eq_true, decide_eq_true_iff, decide_eq_true_iff, high] at contained
    obtain ⟨left, right⟩ := contained
    split at left
    · rename_i power
      exact absurd (power.1 ▸ rfl) odd
    · rename_i notTight
      rw [low] at left
      refine ⟨by omega, fun power notLeast => absurd ⟨power, notLeast⟩ notTight, by omega, ?_⟩
      omega

open Decimal in
theorem fits_of_contains {place : Int} {count : Nat} (positive : 0 < mantissa) (some : 0 < count)
    (least : -1074 ≤ exponent)
    (contained : (Interval.ofBinary mantissa exponent).contains place count = true) :
    Fits mantissa exponent ⟨count, place⟩ where
  positive := some
  near := by
    have near := near_of_contains positive contained
    have tens : 0 < 10 ^ (-place).toNat := Nat.pow_pos (by decide)
    have digits : 4 * 2 ^ (exponent - 2).toNat * one =
        2 ^ (-(exponent - 2)).toNat * 2 ^ (exponent + 1074).toNat := by
      unfold one up
      rw [show 4 = 2 ^ 2 from rfl, ← Nat.pow_add, ← Nat.pow_add, ← Nat.pow_add]
      exact congrArg (2 ^ ·) (by omega)
    refine near.congr ?_ (unit_pos _ _) ?_
    · unfold Interval.scales
      rw [Nat.shiftLeft_eq]
      exact Nat.mul_pos (by decide) (Nat.mul_pos tens (Nat.two_pow_pos _))
    · unfold Interval.scales numeratorOf denominatorOf
      rw [Nat.shiftLeft_eq, Nat.shiftLeft_eq]
      show count * (10 ^ place.toNat * 2 ^ (-(exponent - 2)).toNat) *
          (10 ^ (-place).toNat * 2 ^ (exponent + 1074).toNat) =
        count * 10 ^ place.toNat * one * (4 * (10 ^ (-place).toNat * 2 ^ (exponent - 2).toNat))
      calc _ = count * 10 ^ place.toNat * 10 ^ (-place).toNat *
            (2 ^ (-(exponent - 2)).toNat * 2 ^ (exponent + 1074).toNat) := by ring
        _ = _ := by
          rw [← digits]
          ring

open Decimal in
theorem contains_of_onGrid {tie : Tie} {interval : Interval} {place : Int}
    (found : interval.onGrid tie place = some number) :
    number.exponent = place ∧ 0 < number.digits ∧ interval.contains place number.digits = true := by
  unfold Interval.onGrid at found
  dsimp only at found
  split at found
  · rename_i below above
    rw [Bool.and_eq_true, decide_eq_true_iff] at below
    split at found <;> obtain rfl := Option.some.inj found
    · exact ⟨rfl, below.2, below.1⟩
    · exact ⟨rfl, Nat.succ_pos _, above⟩
  · rename_i below above
    rw [Bool.and_eq_true, decide_eq_true_iff] at below
    obtain rfl := Option.some.inj found
    exact ⟨rfl, below.2, below.1⟩
  · rename_i below above
    obtain rfl := Option.some.inj found
    exact ⟨rfl, Nat.succ_pos _, above⟩
  · cases found

open Decimal in
theorem fits_of_coarsest {tie : Tie} {position : Int} {more count : Nat} (positive : 0 < mantissa)
    (least : -1074 ≤ exponent)
    (found : coarsest tie (Interval.ofBinary mantissa exponent) position more count = some number) :
    Fits mantissa exponent number := by
  induction more generalizing count with
  | zero => cases found
  | succ more inductionHypothesis =>
    unfold coarsest at found
    split at found
    · rename_i onGrid
      obtain rfl := Option.some.inj found
      obtain ⟨place, some, contained⟩ := contains_of_onGrid onGrid
      have fits := fits_of_contains positive some least contained
      rwa [← place] at fits
    · exact inductionHypothesis found

/-- All digits of a double say the double itself. -/
theorem fits_exact (positive : 0 < mantissa) (least : -1074 ≤ exponent) :
    Fits mantissa exponent (Decimal.exact mantissa exponent) where
  positive := by
    unfold Decimal.exact
    rw [Nat.shiftLeft_eq]
    exact Nat.mul_pos (Nat.mul_pos positive (Nat.two_pow_pos _)) (Nat.pow_pos (by decide))
  near := by
    have unit := unit_pos (min exponent 0) exponent
    have ten (count : Nat) : 10 ^ count = 2 ^ count * 5 ^ count := Nat.mul_pow 2 5 count
    have digits : 2 ^ exponent.toNat * one =
        2 ^ (-min exponent 0).toNat * 2 ^ (exponent + 1074).toNat := by
      unfold one up
      rw [← Nat.pow_add, ← Nat.pow_add]
      exact congrArg (2 ^ ·) (by omega)
    have whole : numeratorOf (Decimal.exact mantissa exponent).digits (min exponent 0) =
        mantissa * (denominatorOf (min exponent 0) * 2 ^ (exponent + 1074).toNat) := by
      unfold numeratorOf denominatorOf Decimal.exact
      rw [Nat.shiftLeft_eq, show (min exponent 0).toNat = 0 by omega,
        show (-min exponent 0).toNat = (-exponent).toNat by omega]
      rw [show (-min exponent 0).toNat = (-exponent).toNat by omega] at digits
      calc mantissa * 2 ^ exponent.toNat * Nat.pow 5 (-exponent).toNat * 10 ^ 0 * one
          = mantissa * 5 ^ (-exponent).toNat * (2 ^ exponent.toNat * one) := by
            show mantissa * 2 ^ exponent.toNat * 5 ^ (-exponent).toNat * 1 * one = _
            ring
        _ = mantissa * (2 ^ (-exponent).toNat * 5 ^ (-exponent).toNat *
            2 ^ (exponent + 1074).toNat) := by
          rw [digits]
          ring
        _ = _ := by rw [← ten]
    show Near mantissa exponent (numeratorOf _ (min exponent 0))
      (denominatorOf (min exponent 0) * 2 ^ (exponent + 1074).toNat)
    rw [whole]
    constructor <;> omega

/-- A zero that ends the digits may be moved into the exponent. -/
theorem Fits.dropZeros (fits : Fits mantissa exponent number) (fuel : Nat) :
    Fits mantissa exponent (Decimal.dropZeros fuel number) := by
  induction fuel generalizing number with
  | zero => exact fits
  | succ fuel inductionHypothesis =>
    unfold Decimal.dropZeros
    split
    · rename_i ending
      have whole : number.digits / 10 * 10 = number.digits :=
        Nat.div_mul_cancel (Nat.dvd_of_mod_eq_zero ending.1)
      have some := fits.positive
      have positive : 0 < number.digits / 10 := by omega
      refine inductionHypothesis (@Fits.congr _ _ _ ⟨_, _⟩ fits positive ?_)
      have tens : 10 * 10 ^ number.exponent.toNat * 10 ^ (-(number.exponent + 1)).toNat =
          10 ^ (number.exponent + 1).toNat * 10 ^ (-number.exponent).toNat := by
        rw [← Nat.pow_succ', ← Nat.pow_add, ← Nat.pow_add]
        exact congrArg (10 ^ ·) (by omega)
      unfold numeratorOf denominatorOf
      calc number.digits * 10 ^ number.exponent.toNat * one * 10 ^ (-(number.exponent + 1)).toNat
          = number.digits / 10 * 10 * 10 ^ number.exponent.toNat * one *
            10 ^ (-(number.exponent + 1)).toNat := by rw [whole]
        _ = number.digits / 10 * one *
            (10 * 10 ^ number.exponent.toNat * 10 ^ (-(number.exponent + 1)).toNat) := by ring
        _ = _ := by
          rw [tens]
          ring
    · exact fits

/-- The fewest digits of a double lie in its interval. -/
theorem fits_shortest (tie : Decimal.Tie) (positive : 0 < mantissa) (least : -1074 ≤ exponent) :
    Fits mantissa exponent (Decimal.shortest tie mantissa exponent) := by
  unfold Decimal.shortest
  refine Fits.dropZeros ?_ 20
  cases found : Decimal.coarsest tie (.ofBinary mantissa exponent)
      (Decimal.pointPosition mantissa exponent) 17 1 with
  | some number => exact fits_of_coarsest positive least found
  | none => exact fits_exact positive least

/-! ### Reading the digits -/

theorem limit_eq : limit = 2 ^ 1024 * one := by
  unfold limit units one up
  rw [← Nat.pow_add, ← Nat.pow_add]
  exact congrArg (2 ^ ·) (by decide)

/-- A decimal below twice the limit has its first digit within the range. -/
theorem position_le {digits : Nat} {exponent : Int} (positive : 0 < digits)
    (bound : numeratorOf digits exponent < 2 * (denominatorOf exponent * limit)) :
    exponent + (Nat.toDigits 10 digits).length ≤ 310 := by
  have someDigits := pow_le_of_length positive
  generalize (Nat.toDigits 10 digits).length = length at *
  have twice : 2 * (denominatorOf exponent * limit) =
      2 * 2 ^ 1024 * 10 ^ (-exponent).toNat * one := by
    rw [limit_eq]
    generalize 2 ^ 1024 = most
    unfold denominatorOf
    ring
  rw [twice] at bound
  have bound := Nat.lt_of_mul_lt_mul_right bound
  have huge : 2 * 2 ^ 1024 ≤ 10 ^ 309 := by decide +kernel
  have powers : 10 ^ (length - 1 + exponent.toNat) < 10 ^ (309 + (-exponent).toNat) := by
    rw [Nat.pow_add, Nat.pow_add]
    calc _ ≤ digits * 10 ^ exponent.toNat := Nat.mul_le_mul_right _ someDigits
      _ < 2 * 2 ^ 1024 * 10 ^ (-exponent).toNat := bound
      _ ≤ _ := Nat.mul_le_mul_right _ huge
  have exponents := (Nat.pow_lt_pow_iff_right (by decide)).mp powers
  omega

/-- A decimal of half the least double at least has its first digit within the range. -/
theorem le_position {digits : Nat} {exponent : Int}
    (bound : denominatorOf exponent ≤ 2 * numeratorOf digits exponent) :
    -330 ≤ exponent + (Nat.toDigits 10 digits).length := by
  have allDigits := @lt_pow_of_length digits
  generalize (Nat.toDigits 10 digits).length = length at *
  have tiny : 2 * one ≤ 10 ^ 324 := by decide +kernel
  have powers : 10 ^ (-exponent).toNat < 10 ^ (length + exponent.toNat + 324) := by
    rw [Nat.pow_add, Nat.pow_add]
    calc _ ≤ 2 * numeratorOf digits exponent := bound
      _ = digits * 10 ^ exponent.toNat * (2 * one) := by
        unfold numeratorOf
        ring
      _ < 10 ^ length * 10 ^ exponent.toNat * (2 * one) := by
        refine Nat.mul_lt_mul_of_pos_right (Nat.mul_lt_mul_of_pos_right allDigits ?_)
          (Nat.mul_pos Nat.two_pos one_pos)
        exact Nat.pow_pos (by decide)
      _ ≤ _ := Nat.mul_le_mul_left _ tiny
  have exponents := (Nat.pow_lt_pow_iff_right (by decide)).mp powers
  omega

/-- A decimal in the interval of a double is below twice the limit and at least half the least double. -/
theorem Fits.bounds (fits : Fits mantissa exponent number) (positive : 0 < mantissa)
    (below : units mantissa exponent < limit) :
    numeratorOf number.digits number.exponent < 2 * (denominatorOf number.exponent * limit) ∧
      denominatorOf number.exponent ≤ 2 * numeratorOf number.digits number.exponent := by
  have low := fits.near.low
  have high := fits.near.high
  have whole : mantissa * (denominatorOf number.exponent * 2 ^ (exponent + 1074).toNat) =
      denominatorOf number.exponent * units mantissa exponent := by
    unfold units
    ring
  have small : denominatorOf number.exponent * units mantissa exponent <
      denominatorOf number.exponent * limit :=
    Nat.mul_lt_mul_of_pos_left below (denominatorOf_pos _)
  have unit : denominatorOf number.exponent * 2 ^ (exponent + 1074).toNat ≤
      denominatorOf number.exponent * units mantissa exponent := by
    rw [← whole]
    exact Nat.le_mul_of_pos_left _ positive
  have least : denominatorOf number.exponent ≤
      denominatorOf number.exponent * 2 ^ (exponent + 1074).toNat :=
    Nat.le_mul_of_pos_right _ (Nat.two_pow_pos _)
  rw [whole] at low high
  constructor <;> omega

/-- A decimal in the interval of a double is turned into that double. -/
theorem Fits.amounts (fits : Fits mantissa exponent number) (canonical : Canonical mantissa exponent)
    (positive : 0 < mantissa) (below : units mantissa exponent < limit) :
    Amounts .positive (units mantissa exponent)
      (ofDecimal number.digits number.exponent).toModel.unpack := by
  obtain ⟨most, least⟩ := fits.bounds positive below
  have amounts := amounts_ofDecimal fits.positive (position_le fits.positive most) (le_position least)
  rwa [nearest_of_near canonical (denominatorOf_pos _) fits.near] at amounts

end Double

end ReleasePlayer
