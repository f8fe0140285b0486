/-
This file rounds numbers to the precision of doubles, without doubles. A number is given as a fraction,
by how many of the least positive double it is; rounding keeps 53 binary digits of its whole part, or
all of them if there are fewer, and of two whole numbers that are equally near it takes the even one. So
stated, rounding depends on the value of the fraction only and keeps the order of fractions, and what it
takes for a double is the interval halfway to its neighbours.
-/

import ReleasePlayer.Decimal.Layout
import ReleasePlayer.Proofs.Double.Rounding

namespace ReleasePlayer

namespace Decimal

/-! ### Rounded quotients -/

/-- A whole number is nearest to a fraction, and even if another one is just as near. -/
structure IsNearest (numerator denominator whole : Nat) : Prop where
  low : 2 * (whole * denominator) ≤ 2 * numerator + denominator
  high : 2 * numerator ≤ 2 * (whole * denominator) + denominator
  even : 2 * (whole * denominator) = 2 * numerator + denominator ∨
    2 * numerator = 2 * (whole * denominator) + denominator → whole % 2 = 0

theorem isNearest_roundDiv (numerator : Nat) {denominator : Nat} (positive : 0 < denominator) :
    IsNearest numerator denominator (roundDiv numerator denominator) := by
  have whole := Nat.div_add_mod numerator denominator
  have rest := Nat.mod_lt numerator positive
  rw [Nat.mul_comm denominator] at whole
  unfold roundDiv
  dsimp only
  generalize numerator / denominator = quotient at *
  generalize numerator % denominator = remainder at *
  split
  · constructor <;> omega
  · have next := Nat.add_one_mul quotient denominator
    split
    · constructor <;> omega
    · rcases Nat.mod_two_eq_zero_or_one quotient with even | odd
      · rw [even, Nat.add_zero]
        constructor <;> omega
      · rw [odd]
        constructor <;> omega

theorem isNearest_whole (whole : Nat) {denominator : Nat} (positive : 0 < denominator) :
    IsNearest (whole * denominator) denominator whole := by
  constructor
  · omega
  · omega
  · rintro (tie | tie) <;> omega

/-- Greater fractions have greater nearest whole numbers. -/
theorem IsNearest.le {numerator denominator whole numerator' denominator' whole' : Nat}
    (left : IsNearest numerator denominator whole)
    (right : IsNearest numerator' denominator' whole') (positive : 0 < denominator)
    (positive' : 0 < denominator') (le : numerator * denominator' ≤ numerator' * denominator) :
    whole ≤ whole' := by
  by_contra less
  have above : whole' + 1 ≤ whole := Nat.lt_of_not_le less
  have leftLow : (whole' + 1) * denominator ≤ whole * denominator := Nat.mul_le_mul_right _ above
  have more := Nat.add_one_mul whole' denominator
  have low := left.low
  have high := right.high
  -- Both fractions lie at the middle between `whole'` and the next number, where they tie.
  have fromLeft : (2 * (whole' * denominator) + denominator) * denominator' ≤
      2 * numerator * denominator' := Nat.mul_le_mul_right _ (by omega)
  have fromRight : 2 * numerator' * denominator ≤
      (2 * (whole' * denominator') + denominator') * denominator := Nat.mul_le_mul_right _ high
  have middle : (2 * (whole' * denominator) + denominator) * denominator' =
      (2 * (whole' * denominator') + denominator') * denominator := by ring
  have between : 2 * numerator * denominator' ≤ 2 * numerator' * denominator := by
    rw [Nat.mul_assoc, Nat.mul_assoc]
    exact Nat.mul_le_mul_left 2 le
  have leftTie : 2 * numerator = 2 * (whole' * denominator) + denominator :=
    Nat.eq_of_mul_eq_mul_right positive' (by omega)
  have rightTie : 2 * numerator' = 2 * (whole' * denominator') + denominator' :=
    Nat.eq_of_mul_eq_mul_right positive (by omega)
  have next : whole * denominator ≤ (whole' + 1) * denominator := by omega
  obtain rfl : whole = whole' + 1 :=
    Nat.le_antisymm (Nat.le_of_mul_le_mul_right next positive) above
  have leftEven := left.even (Or.inl (by omega))
  have rightEven := right.even (Or.inr rightTie)
  omega

theorem IsNearest.eq_roundDiv {numerator denominator whole : Nat}
    (nearest : IsNearest numerator denominator whole) (positive : 0 < denominator) :
    roundDiv numerator denominator = whole :=
  have rounded := isNearest_roundDiv numerator positive
  Nat.le_antisymm (rounded.le nearest positive positive le_rfl)
    (nearest.le rounded positive positive le_rfl)

theorem roundDiv_le {numerator denominator numerator' denominator' : Nat}
    (positive : 0 < denominator) (positive' : 0 < denominator')
    (le : numerator * denominator' ≤ numerator' * denominator) :
    roundDiv numerator denominator ≤ roundDiv numerator' denominator' :=
  (isNearest_roundDiv numerator positive).le (isNearest_roundDiv numerator' positive') positive
    positive' le

end Decimal

namespace Double

open Decimal (roundDiv IsNearest isNearest_whole isNearest_roundDiv)

/-! ### Places -/

/-- How many binary digits of its whole part a number has beyond the 53 that are kept. -/
def place (numerator denominator : Nat) : Nat := (numerator / denominator).log2 - 52

/-- The number that is made of 53 binary digits and nearest to a fraction. -/
def nearest (numerator denominator : Nat) : Nat :=
  roundDiv numerator (denominator * 2 ^ place numerator denominator) *
    2 ^ place numerator denominator

section Fractions

variable {numerator denominator numerator' denominator' : Nat}

theorem lt_of_place (positive : 0 < denominator) :
    numerator < 2 ^ 53 * (denominator * 2 ^ place numerator denominator) := by
  have below : numerator / denominator < 2 ^ ((numerator / denominator).log2 + 1) :=
    Nat.lt_log2_self
  have digits : (numerator / denominator).log2 + 1 ≤ 53 + place numerator denominator := by
    unfold place
    omega
  have bound := (Nat.div_lt_iff_lt_mul positive).mp
    (Nat.lt_of_lt_of_le below (Nat.pow_le_pow_right (by decide) digits))
  rwa [Nat.pow_add, Nat.mul_assoc, Nat.mul_comm (2 ^ place _ _)] at bound

theorem le_of_place (positive : 0 < denominator) (some : 0 < place numerator denominator) :
    2 ^ 52 * (denominator * 2 ^ place numerator denominator) ≤ numerator := by
  have digits : (numerator / denominator).log2 = 52 + place numerator denominator := by
    unfold place at *
    omega
  have nonzero : numerator / denominator ≠ 0 := by
    intro zero
    rw [zero] at digits
    exact absurd digits (by rw [Nat.log2_zero]; omega)
  have reached := Nat.log2_self_le nonzero
  rw [digits, Nat.le_div_iff_mul_le positive] at reached
  rwa [Nat.pow_add, Nat.mul_assoc, Nat.mul_comm (2 ^ place _ _)] at reached

/-- The place of a number between two powers of two. -/
theorem place_eq {count : Nat} (positive : 0 < denominator)
    (low : 0 < count → 2 ^ 52 * (denominator * 2 ^ count) ≤ numerator)
    (high : numerator < 2 ^ 53 * (denominator * 2 ^ count)) :
    place numerator denominator = count := by
  rcases Nat.lt_trichotomy (place numerator denominator) count with less | same | greater
  · have below := @lt_of_place numerator denominator positive
    have powers : 2 ^ (place numerator denominator + 1) ≤ 2 ^ count :=
      Nat.pow_le_pow_right (by decide) less
    rw [Nat.pow_succ] at powers
    have scaled := Nat.mul_le_mul_left denominator powers
    rw [← Nat.mul_assoc] at scaled
    have reached := low (by omega)
    omega
  · exact same
  · have reached := le_of_place positive (Nat.lt_of_le_of_lt (Nat.zero_le count) greater)
    have powers : 2 ^ (count + 1) ≤ 2 ^ place numerator denominator :=
      Nat.pow_le_pow_right (by decide) greater
    rw [Nat.pow_succ] at powers
    have scaled := Nat.mul_le_mul_left denominator powers
    rw [← Nat.mul_assoc] at scaled
    omega

/-- Greater numbers have greater places. -/
theorem place_mono (positive : 0 < denominator) (positive' : 0 < denominator')
    (le : numerator * denominator' ≤ numerator' * denominator) :
    place numerator denominator ≤ place numerator' denominator' := by
  have quotients : numerator / denominator ≤ numerator' / denominator' := by
    rw [Nat.le_div_iff_mul_le positive', ← Nat.mul_le_mul_right_iff positive]
    calc numerator / denominator * denominator' * denominator
        = numerator / denominator * denominator * denominator' := Nat.mul_right_comm _ _ _
      _ ≤ numerator * denominator' := Nat.mul_le_mul_right _ (Nat.div_mul_le_self _ _)
      _ ≤ numerator' * denominator := le
  unfold place
  rcases Nat.eq_zero_or_pos (numerator / denominator) with zero | some
  · rw [zero, Nat.log2_zero]
    omega
  · have logs := (Nat.le_log2 (Nat.ne_of_gt (Nat.lt_of_lt_of_le some quotients))).mpr
      (Nat.le_trans (Nat.log2_self_le (Nat.ne_of_gt some)) quotients)
    omega

/-! ### Nearest numbers -/

theorem roundDiv_place_le (positive : 0 < denominator) :
    roundDiv numerator (denominator * 2 ^ place numerator denominator) ≤ 2 ^ 53 := by
  have scaled := Nat.mul_pos positive (Nat.two_pow_pos (place numerator denominator))
  refine (isNearest_roundDiv numerator scaled).le (isNearest_whole _ scaled) scaled scaled ?_
  exact Nat.mul_le_mul_right _ (Nat.le_of_lt (lt_of_place positive))

theorem le_roundDiv_place (positive : 0 < denominator) (some : 0 < place numerator denominator) :
    2 ^ 52 ≤ roundDiv numerator (denominator * 2 ^ place numerator denominator) := by
  have scaled := Nat.mul_pos positive (Nat.two_pow_pos (place numerator denominator))
  refine (isNearest_whole _ scaled).le (isNearest_roundDiv numerator scaled) scaled scaled ?_
  exact Nat.mul_le_mul_right _ (le_of_place positive some)

/-- Rounding keeps the order of numbers. -/
theorem nearest_mono (positive : 0 < denominator) (positive' : 0 < denominator')
    (le : numerator * denominator' ≤ numerator' * denominator) :
    nearest numerator denominator ≤ nearest numerator' denominator' := by
  have places := place_mono positive positive' le
  unfold nearest
  rcases Nat.lt_or_eq_of_le places with less | same
  · have powers : 2 ^ (place numerator denominator + 1) ≤ 2 ^ place numerator' denominator' :=
      Nat.pow_le_pow_right (by decide) less
    calc _ ≤ 2 ^ 53 * 2 ^ place numerator denominator :=
          Nat.mul_le_mul_right _ (roundDiv_place_le positive)
      _ = 2 ^ 52 * 2 ^ (place numerator denominator + 1) := by ring
      _ ≤ 2 ^ 52 * 2 ^ place numerator' denominator' := Nat.mul_le_mul_left _ powers
      _ ≤ _ := Nat.mul_le_mul_right _
          (le_roundDiv_place positive' (Nat.lt_of_le_of_lt (Nat.zero_le _) less))
  · rw [same]
    refine Nat.mul_le_mul_right _ (Decimal.roundDiv_le
      (Nat.mul_pos positive (Nat.two_pow_pos _)) (Nat.mul_pos positive' (Nat.two_pow_pos _)) ?_)
    rw [← Nat.mul_assoc, ← Nat.mul_assoc]
    exact Nat.mul_le_mul_right _ le

/-- Rounding depends on the value of a fraction only. -/
theorem nearest_congr (positive : 0 < denominator) (positive' : 0 < denominator')
    (same : numerator * denominator' = numerator' * denominator) :
    nearest numerator denominator = nearest numerator' denominator' :=
  Nat.le_antisymm (nearest_mono positive positive' same.le)
    (nearest_mono positive' positive same.ge)

end Fractions

/-! ### The numbers that round to a double -/

/-- A number lies within the interval halfway to the neighbours of a canonical double, whose ends belong
to it if the mantissa is even. Below a power of two the neighbour is twice as close. The interval is
given in quarters of the last digit. -/
structure Near (mantissa : Nat) (exponent : Int) (numerator unit : Nat) : Prop where
  low : 4 * (mantissa * unit) ≤ 4 * numerator + 2 * unit
  tight : mantissa = 2 ^ 52 → exponent ≠ -1074 → 4 * (mantissa * unit) ≤ 4 * numerator + unit
  high : 4 * numerator ≤ 4 * (mantissa * unit) + 2 * unit
  ends : mantissa % 2 = 1 → 4 * (mantissa * unit) ≠ 4 * numerator + 2 * unit ∧
    4 * numerator ≠ 4 * (mantissa * unit) + 2 * unit

section Interval

variable {mantissa numerator denominator : Nat} {exponent : Int}

/-- Whether a number lies in the interval of a double depends on its value only. -/
theorem Near.congr {unit numerator' unit' : Nat}
    (near : Near mantissa exponent numerator unit) (positive : 0 < unit) (positive' : 0 < unit')
    (same : numerator * unit' = numerator' * unit) :
    Near mantissa exponent numerator' unit' := by
  -- Each comparison of the one fraction is multiplied by the unit of the other.
  have whole : mantissa * unit * unit' = mantissa * unit' * unit := Nat.mul_right_comm _ _ _
  have units : unit * unit' = unit' * unit := Nat.mul_comm _ _
  have up {left right : Nat} (le : left ≤ right) : left * unit' ≤ right * unit' :=
    Nat.mul_le_mul_right _ le
  constructor
  · refine Nat.le_of_mul_le_mul_right ?_ positive
    have le := up near.low
    rw [Nat.add_mul, Nat.mul_assoc 4, Nat.mul_assoc 4, Nat.mul_assoc 2] at le ⊢
    rw [whole, same, units] at le
    exact le
  · intro power notLeast
    refine Nat.le_of_mul_le_mul_right ?_ positive
    have le := up (near.tight power notLeast)
    rw [Nat.add_mul, Nat.mul_assoc 4, Nat.mul_assoc 4] at le ⊢
    rw [whole, same, units] at le
    exact le
  · refine Nat.le_of_mul_le_mul_right ?_ positive
    have le := up near.high
    rw [Nat.add_mul, Nat.mul_assoc 4, Nat.mul_assoc 4, Nat.mul_assoc 2] at le ⊢
    rw [whole, same, units] at le
    exact le
  · intro odd
    obtain ⟨notLow, notHigh⟩ := near.ends odd
    constructor
    · intro tie
      refine notLow (Nat.eq_of_mul_eq_mul_right positive' ?_)
      have scaled : _ * unit = _ * unit := congrArg (· * unit) tie
      rw [Nat.add_mul, Nat.mul_assoc 4, Nat.mul_assoc 4, Nat.mul_assoc 2] at scaled ⊢
      rw [whole, same, units]
      exact scaled
    · intro tie
      refine notHigh (Nat.eq_of_mul_eq_mul_right positive' ?_)
      have scaled : _ * unit = _ * unit := congrArg (· * unit) tie
      rw [Nat.add_mul, Nat.mul_assoc 4, Nat.mul_assoc 4, Nat.mul_assoc 2] at scaled ⊢
      rw [whole, same, units]
      exact scaled

theorem Near.isNearest {unit : Nat} (near : Near mantissa exponent numerator unit) :
    IsNearest numerator unit mantissa := by
  have low := near.low
  have high := near.high
  refine ⟨by omega, by omega, fun tie => ?_⟩
  by_contra notEven
  obtain ⟨notLow, notHigh⟩ := near.ends (by omega)
  omega

/-- The numbers in the interval around a canonical double are rounded to it. -/
theorem nearest_of_near (canonical : Canonical mantissa exponent) (positive : 0 < denominator)
    (near : Near mantissa exponent numerator (denominator * 2 ^ (exponent + 1074).toNat)) :
    nearest numerator denominator = units mantissa exponent := by
  have small := canonical.small
  have least := canonical.least
  have high := near.high
  have scaled := Nat.mul_pos positive (Nat.two_pow_pos (exponent + 1074).toNat)
  have top : mantissa * (denominator * 2 ^ (exponent + 1074).toNat) ≤
      (2 ^ 53 - 1) * (denominator * 2 ^ (exponent + 1074).toNat) :=
    Nat.mul_le_mul_right _ (by omega)
  by_cases reached : 0 < (exponent + 1074).toNat →
      2 ^ 52 * (denominator * 2 ^ (exponent + 1074).toNat) ≤ numerator
  · have same : place numerator denominator = (exponent + 1074).toNat :=
      place_eq positive reached (by omega)
    unfold nearest units
    rw [same, near.isNearest.eq_roundDiv scaled]
  · -- Only below a power of two can the number have fewer digits, and then it has one digit less.
    obtain ⟨some, below⟩ := Classical.not_imp.mp reached
    have full := canonical.full.resolve_right (by omega)
    have low := near.low
    obtain rfl : mantissa = 2 ^ 52 := by
      by_contra other
      have more : (2 ^ 52 + 1) * (denominator * 2 ^ (exponent + 1074).toNat) ≤
          mantissa * (denominator * 2 ^ (exponent + 1074).toNat) :=
        Nat.mul_le_mul_right _ (by omega)
      omega
    have tight := near.tight rfl (by omega)
    obtain ⟨count, counted⟩ := Nat.exists_eq_add_one_of_ne_zero (Nat.ne_of_gt some)
    have halves : denominator * 2 ^ (exponent + 1074).toNat = 2 * (denominator * 2 ^ count) := by
      rw [counted]
      ring
    rw [halves] at scaled low tight below
    have same : place numerator denominator = count :=
      place_eq positive (by omega) (by omega)
    have rounded : IsNearest numerator (denominator * 2 ^ count) (2 ^ 53) := by
      constructor <;> omega
    unfold nearest units
    rw [same, rounded.eq_roundDiv (by omega), counted]
    ring

/-- A canonical double is rounded to itself. -/
theorem nearest_units (canonical : Canonical mantissa exponent) (positive : 0 < denominator) :
    nearest (units mantissa exponent * denominator) denominator = units mantissa exponent := by
  refine nearest_of_near canonical positive ?_
  have whole : units mantissa exponent * denominator =
      mantissa * (denominator * 2 ^ (exponent + 1074).toNat) := by
    unfold units
    ring
  have scaled := Nat.mul_pos positive (Nat.two_pow_pos (exponent + 1074).toNat)
  rw [whole]
  constructor <;> omega

end Interval

end Double

end ReleasePlayer
