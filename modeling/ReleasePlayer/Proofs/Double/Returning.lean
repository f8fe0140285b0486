/-
This file names doubles that come back exactly when they are multiplied by a factor and divided by it
again. One and two do, for neither product is rounded unless it is infinite. One and a half does where
twice the factor is infinite: such a factor has all its digits, so the product is off by half of the last
one at most, and the quotient by too little to be rounded elsewhere. Each of them is a level below which
all doubles stay, since products and quotients keep the order.
-/

import ReleasePlayer.Proofs.Double.Monotone

namespace ReleasePlayer

namespace Double

open Float.Model Float.Model.UnpackedFloat

variable {factor level : Float} {amount amount' : Nat}

/-! ### Doubles that come back -/

/-- A double can be multiplied by a factor, and dividing by it brings the double back. -/
structure Returns (factor level : Float) : Prop where
  nonneg : 0.0 ≤ level
  isFinite : level.isFinite = true
  isFinite_mul : (level * factor).isFinite = true
  mul_div : level * factor / factor = level

theorem returns_of_nearest {level : Float} {product : Nat} (measures : Measures level amount)
    (scale : Measures factor amount') (some : 0 < amount) (some' : 0 < amount')
    (multiplied : nearest (amount * amount') one = product) (below : product < limit)
    (divided : nearest (product * one) amount' = amount) : Returns factor level := by
  have up := measures.mul scale (by rwa [multiplied])
  rw [multiplied] at up
  have down := up.div scale some' (by rw [divided]; exact measures.below)
  rw [divided] at down
  exact ⟨measures.nonneg, measures.isFinite, up.isFinite, down.unique measures some⟩

theorem measures_one : Measures 1.0 one := by
  have unpacked : (1.0 : Float).toModel.unpack =
      .finite .positive (2 ^ 52) (-52) (Nat.two_pow_pos 52) := rfl
  have measured := measures_of_amounts (amounts_of_unpack unpacked) (Or.inl rfl)
    (units_lt_limit (by decide) (by decide))
  have amount : units (2 ^ 52) (-52) = one := by
    unfold units one up
    rw [← Nat.pow_add]
    exact congrArg (2 ^ ·) (by decide)
  rwa [amount] at measured

theorem units_succ (mantissa : Nat) {exponent : Int} (least : -1074 ≤ exponent) :
    units mantissa (exponent + 1) = 2 * units mantissa exponent := by
  unfold units
  rw [Nat.mul_left_comm, ← Nat.pow_succ']
  exact congrArg (mantissa * 2 ^ ·) (by omega)

theorem units_one : units (2 ^ 52) (-52) = one := by
  unfold units one up
  rw [← Nat.pow_add]
  exact congrArg (2 ^ ·) (by decide)

theorem canonical_one : Canonical (2 ^ 52) (-52) :=
  ⟨by decide, by decide, Or.inl (Nat.le_refl _)⟩

theorem returns_one (finite : factor.isFinite = true) (positive : 0.0 < factor) :
    Returns factor 1.0 := by
  obtain ⟨amount, scale⟩ := exists_measures (float_lt_iff.mp positive).1 finite
  have some := scale.pos_iff.mp positive
  rcases scale.cases with ⟨-, -, rfl⟩ | ⟨mantissa, exponent, mantissaPos, -, canonical, rfl⟩
  · exact absurd some (Nat.lt_irrefl 0)
  · have back := nearest_units canonical_one some
    rw [units_one, Nat.mul_comm] at back
    refine returns_of_nearest measures_one scale one_pos some ?_ scale.below back
    rw [Nat.mul_comm]
    exact nearest_units canonical one_pos

theorem measures_two : Measures 2.0 (2 * one) := by
  have unpacked : (2.0 : Float).toModel.unpack =
      .finite .positive (2 ^ 52) (-52 + 1) (Nat.two_pow_pos 52) := rfl
  have measured := measures_of_amounts (amounts_of_unpack unpacked) (Or.inl rfl)
    (units_lt_limit (by decide) (by decide))
  have amount : units (2 ^ 52) (-52 + 1) = 2 * one := by
    rw [units_succ _ (by decide), units_one]
  rwa [amount] at measured

/-- Twice a number has the same digits. -/
theorem exists_canonical_two {mantissa : Nat} {exponent : Int} (positive : 0 < mantissa)
    (canonical : Canonical mantissa exponent) : ∃ mantissa' exponent',
      Canonical mantissa' exponent' ∧ units mantissa' exponent' = 2 * units mantissa exponent := by
  have least := canonical.least
  obtain ⟨mantissa', exponent', canonical', made⟩ :=
    @exists_canonical mantissa (exponent + 1) positive canonical.small (by omega)
  exact ⟨mantissa', exponent', canonical', made.trans (units_succ mantissa least)⟩

theorem nearest_two_mul (scale : Measures factor amount) (some : 0 < amount) :
    nearest (2 * one * amount) one = 2 * amount := by
  rcases scale.cases with ⟨-, -, rfl⟩ | ⟨mantissa, exponent, mantissaPos, -, canonical, rfl⟩
  · exact absurd some (Nat.lt_irrefl 0)
  · obtain ⟨mantissa', exponent', canonical', made⟩ := exists_canonical_two mantissaPos canonical
    have same := nearest_units canonical' one_pos
    rwa [made, Nat.mul_right_comm 2] at same

theorem returns_two (finite : factor.isFinite = true) (positive : 0.0 < factor)
    (bound : (2.0 * factor).isFinite = true) : Returns factor 2.0 := by
  obtain ⟨amount, scale⟩ := exists_measures (float_lt_iff.mp positive).1 finite
  have some := scale.pos_iff.mp positive
  have below := measures_two.below_of_mul scale bound
  have multiplied := nearest_two_mul scale some
  have divided : nearest (2 * amount * one) amount = 2 * one := by
    obtain ⟨mantissa, exponent, canonical, made⟩ :=
      exists_canonical_two (Nat.two_pow_pos 52) canonical_one
    have twice : units mantissa exponent = 2 * one := made.trans (congrArg (2 * ·) units_one)
    have same := nearest_units canonical some
    rwa [twice, Nat.mul_right_comm 2 one] at same
  rw [multiplied] at below
  exact returns_of_nearest measures_two scale (Nat.mul_pos Nat.two_pos one_pos) some multiplied below
    divided

/-! ### Factors that cannot be doubled -/

/-- A factor that cannot be doubled has all its digits, and they stand as high as they can. -/
theorem exists_of_not_two_mul (scale : Measures factor amount) (some : 0 < amount)
    (huge : ¬ (2.0 * factor).isFinite = true) :
    ∃ mantissa, 2 ^ 52 ≤ mantissa ∧ amount = units mantissa 971 := by
  have doubled : limit ≤ 2 * amount := by
    by_contra below
    have product := measures_two.mul scale (by rw [nearest_two_mul scale some]; omega)
    exact huge product.isFinite
  rcases scale.cases with ⟨-, -, rfl⟩ | ⟨mantissa, exponent, positive, -, canonical, rfl⟩
  · exact absurd some (Nat.lt_irrefl 0)
  · have least := canonical.least
    obtain rfl : exponent = 971 := by
      rcases lt_trichotomy exponent 971 with less | same | greater
      · rw [← units_succ mantissa least] at doubled
        have below : units mantissa (exponent + 1) < limit :=
          units_lt_limit canonical.small (by omega)
        omega
      · exact same
      · exact absurd scale.below (Nat.not_lt_of_le (limit_le_units canonical greater))
    exact ⟨mantissa, canonical.full.resolve_right (by decide), rfl⟩

/-- Numbers of 53 binary digits are doubles, and so is the one after them. -/
theorem nearest_of_le {count denominator : Nat} {exponent : Int} (le : count ≤ 2 ^ 53)
    (least : -1074 ≤ exponent) (positive : 0 < denominator) :
    nearest (units count exponent * denominator) denominator = units count exponent := by
  rcases Nat.lt_or_eq_of_le le with small | rfl
  · exact nearest_of_small small least positive
  · have canonical : Canonical (2 ^ 52) (exponent + 1) :=
      ⟨by decide, by omega, Or.inl (Nat.le_refl _)⟩
    have same := nearest_units canonical positive
    have made : units (2 ^ 52) (exponent + 1) = units (2 ^ 53) exponent := by
      rw [units_succ _ least]
      exact (Nat.mul_assoc 2 (2 ^ 52) _).symm
    rwa [made] at same

/-! ### One and a half -/

/-- The mantissa of one and a half. -/
theorem canonical_threeHalves : Canonical (3 * 2 ^ 51) (-52) :=
  ⟨by decide, by decide, Or.inl (by decide)⟩

theorem measures_threeHalves : Measures 1.5 (units (3 * 2 ^ 51) (-52)) := by
  have unpacked : (1.5 : Float).toModel.unpack =
      .finite .positive (3 * 2 ^ 51) (-52) (by decide) := rfl
  exact measures_of_amounts (amounts_of_unpack unpacked) (Or.inl rfl)
    (units_lt_limit (by decide) (by decide))

/-- A quotient whose double is off by one at most is rounded to one and a half, if its divisor has all
its digits. -/
theorem nearest_threeHalves {count mantissa : Nat} (full : 2 ^ 52 ≤ mantissa)
    (low : 3 * mantissa ≤ 2 * count + 1) (high : 2 * count ≤ 3 * mantissa + 1) :
    nearest (count * one) mantissa = units (3 * 2 ^ 51) (-52) := by
  have positive : 0 < mantissa := Nat.lt_of_lt_of_le (Nat.two_pow_pos 52) full
  refine nearest_of_near canonical_threeHalves positive ?_
  have near : Near (3 * 2 ^ 51) (-52) (count * 2 ^ 52) mantissa := by
    constructor <;> omega
  refine near.congr positive (Nat.mul_pos positive (Nat.two_pow_pos _)) ?_
  rw [← units_one]
  unfold units
  generalize 2 ^ (-52 + 1074 : Int).toNat = scale
  ring

/-- One and a half of a number, in halves. -/
theorem threeHalves_mul (mantissa : Nat) (exponent : Int) :
    2 * (units (3 * 2 ^ 51) (-52) * units mantissa exponent) =
      units (3 * mantissa) exponent * one := by
  rw [← units_one]
  unfold units
  generalize 2 ^ (-52 + 1074 : Int).toNat = factor
  ring

/-- The product lies between the two whole numbers around one and a half of the mantissa. -/
theorem threeHalves_mul_between {mantissa : Nat}
    (below : nearest (units (3 * 2 ^ 51) (-52) * units mantissa 971) one < limit) :
    units (3 * mantissa / 2) 971 ≤ nearest (units (3 * 2 ^ 51) (-52) * units mantissa 971) one ∧
      nearest (units (3 * 2 ^ 51) (-52) * units mantissa 971) one ≤
        units ((3 * mantissa + 1) / 2) 971 := by
  have halves := threeHalves_mul mantissa 971
  generalize units (3 * 2 ^ 51) (-52) * units mantissa 971 = product at *
  have above {count : Nat} (le : 2 * count ≤ 3 * mantissa) (short : count ≤ 2 ^ 53) :
      units count 971 ≤ nearest product one := by
    have scaled : 2 * (units count 971 * one) ≤ units (3 * mantissa) 971 * one := by
      rw [← Nat.mul_assoc]
      refine Nat.mul_le_mul_right _ ?_
      unfold units
      rw [← Nat.mul_assoc]
      exact Nat.mul_le_mul_right _ le
    rw [← nearest_of_le short (by decide) one_pos]
    refine nearest_mono one_pos one_pos (Nat.mul_le_mul_right _ ?_)
    omega
  have short : (3 * mantissa + 1) / 2 ≤ 2 ^ 53 := by
    by_contra long
    have reached : limit ≤ nearest product one := above (by omega) (Nat.le_refl _)
    omega
  refine ⟨above (by omega) (by omega), ?_⟩
  have scaled : units (3 * mantissa) 971 * one ≤
      2 * (units ((3 * mantissa + 1) / 2) 971 * one) := by
    rw [← Nat.mul_assoc]
    refine Nat.mul_le_mul_right _ ?_
    unfold units
    rw [← Nat.mul_assoc]
    exact Nat.mul_le_mul_right _ (by omega)
  rw [← nearest_of_le short (by decide) one_pos]
  refine nearest_mono one_pos one_pos (Nat.mul_le_mul_right _ ?_)
  omega

theorem returns_threeHalves (finite : factor.isFinite = true) (positive : 0.0 < factor)
    (huge : ¬ (2.0 * factor).isFinite = true) (bound : (1.5 * factor).isFinite = true) :
    Returns factor 1.5 := by
  obtain ⟨amount, scale⟩ := exists_measures (float_lt_iff.mp positive).1 finite
  have some := scale.pos_iff.mp positive
  have below := measures_threeHalves.below_of_mul scale bound
  obtain ⟨mantissa, full, made⟩ := exists_of_not_two_mul scale some huge
  rw [made] at scale some below
  have mantissaPos : 0 < mantissa := Nat.lt_of_lt_of_le (Nat.two_pow_pos 52) full
  obtain ⟨low, high⟩ := threeHalves_mul_between below
  refine returns_of_nearest measures_threeHalves scale
    (units_pos (by decide) (-52)) some rfl below (Nat.le_antisymm ?_ ?_)
  · refine (nearest_mono some mantissaPos ?_).trans_eq
      (@nearest_threeHalves ((3 * mantissa + 1) / 2) mantissa full (by omega) (by omega))
    calc _ = nearest (units (3 * 2 ^ 51) (-52) * units mantissa 971) one * (one * mantissa) :=
          Nat.mul_assoc _ _ _
      _ ≤ units ((3 * mantissa + 1) / 2) 971 * (one * mantissa) := Nat.mul_le_mul_right _ high
      _ = _ := by
        unfold units
        ring
  · refine (@nearest_threeHalves (3 * mantissa / 2) mantissa full (by omega) (by omega)).symm.trans_le
      (nearest_mono mantissaPos some ?_)
    calc 3 * mantissa / 2 * one * units mantissa 971
        = units (3 * mantissa / 2) 971 * (one * mantissa) := by
          unfold units
          ring
      _ ≤ nearest (units (3 * 2 ^ 51) (-52) * units mantissa 971) one * (one * mantissa) :=
          Nat.mul_le_mul_right _ low
      _ = _ := (Nat.mul_assoc _ _ _).symm

end Double

end ReleasePlayer
