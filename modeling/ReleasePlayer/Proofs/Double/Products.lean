/-
This file gives the amounts of products and quotients of doubles, and of whole numbers and decimals that
are turned into doubles. Each is the nearest number to the exact one: a product of two amounts is measured
in the square of the least double, a quotient of two amounts in nothing, and a decimal is a product or a
quotient with a power of ten.
-/

import ReleasePlayer.Proofs.Double.Amount

namespace ReleasePlayer

namespace Double

open Float.Model Float.Model.UnpackedFloat

/-- The amount of one. -/
def one : Nat := up 0

theorem one_pos : 0 < one := up_pos 0

theorem repacked_zero (sign : Sign) : repacked (.zero sign) = .zero sign := by
  unfold repacked UnpackedFloat.pack
  rw [unpack_packedZero]

theorem nearest_zero {denominator : Nat} (positive : 0 < denominator) : nearest 0 denominator = 0 := by
  have canonical : Canonical 0 (-1074) := ⟨Nat.two_pow_pos 53, Int.le_refl _, Or.inr rfl⟩
  have same := nearest_units canonical positive
  have none : units 0 (-1074) = 0 := Nat.zero_mul _
  rwa [none, Nat.zero_mul] at same

/-! ### Small whole numbers -/

/-- A mantissa that is not too long has a canonical form, whatever its exponent. -/
theorem exists_canonical {mantissa : Nat} {exponent : Int} (positive : 0 < mantissa)
    (small : mantissa < 2 ^ 53) (least : -1074 ≤ exponent) :
    ∃ mantissa' exponent', Canonical mantissa' exponent' ∧
      units mantissa' exponent' = units mantissa exponent := by
  have log := (Nat.log2_lt (Nat.ne_of_gt positive)).mpr small
  have low := Nat.log2_self_le (Nat.ne_of_gt positive)
  have high : mantissa < 2 ^ (mantissa.log2 + 1) := Nat.lt_log2_self
  obtain ⟨count, counted⟩ : ∃ count, count = min (52 - mantissa.log2) (exponent + 1074).toNat := ⟨_, rfl⟩
  refine ⟨mantissa * 2 ^ count, exponent - count, ⟨?_, by omega, ?_⟩, ?_⟩
  · calc mantissa * 2 ^ count < 2 ^ (mantissa.log2 + 1) * 2 ^ count :=
          Nat.mul_lt_mul_of_pos_right high (Nat.two_pow_pos _)
      _ = 2 ^ (mantissa.log2 + 1 + count) := (Nat.pow_add 2 _ _).symm
      _ ≤ 2 ^ 53 := Nat.pow_le_pow_right Nat.two_pos (by omega)
  · by_cases all : count = 52 - mantissa.log2
    · left
      calc 2 ^ 52 = 2 ^ mantissa.log2 * 2 ^ count := by
            rw [← Nat.pow_add]
            exact congrArg (2 ^ ·) (by omega)
        _ ≤ mantissa * 2 ^ count := Nat.mul_le_mul_right _ low
    · right
      omega
  · unfold units
    rw [Nat.mul_assoc, ← Nat.pow_add]
    exact congrArg (mantissa * 2 ^ ·) (by omega)

theorem nearest_of_small {mantissa denominator : Nat} {exponent : Int} (small : mantissa < 2 ^ 53)
    (least : -1074 ≤ exponent) (positive : 0 < denominator) :
    nearest (units mantissa exponent * denominator) denominator = units mantissa exponent := by
  rcases Nat.eq_zero_or_pos mantissa with rfl | nonzero
  · have none : units 0 exponent = 0 := Nat.zero_mul _
    rw [none, Nat.zero_mul, nearest_zero positive]
  · obtain ⟨mantissa', exponent', canonical, same⟩ := exists_canonical nonzero small least
    rw [← same, nearest_units canonical positive]

/-! ### Products -/

section Finite

variable {sign sign' : Sign} {mantissa mantissa' : Nat} {exponent exponent' : Int}
  {positive : 0 < mantissa} {positive' : 0 < mantissa'}

/-- A product has digits enough if it has more than 52, or if both factors are as small as can be. -/
theorem enough_of_long (long : 2 ^ 52 ≤ mantissa ∨ exponent ≤ -1074) :
    exponent ≤ Format.binary64.targetExponent (totalExponent mantissa exponent) := by
  rw [targetExponent_eq]
  rcases long with long | tiny
  · have nonzero : mantissa ≠ 0 := Nat.ne_of_gt (Nat.lt_of_lt_of_le (Nat.two_pow_pos 52) long)
    have log := (Nat.le_log2 nonzero).mpr long
    omega
  · omega

theorem amounts_mul_finite
    (long : 2 ^ 52 ≤ mantissa * mantissa' ∨ exponent + exponent' ≤ -1074) :
    Amounts (sign * sign')
      (nearest (mantissa * mantissa' * up (exponent + exponent')) (down (exponent + exponent')))
      (repacked (UnpackedFloat.mul Format.binary64 (.finite sign mantissa exponent positive)
        (.finite sign' mantissa' exponent' positive'))) :=
  amounts_roundWithAccuracy_exact _ (enough_of_long long)

/-- The quotient of mantissas is computed with more than 52 digits, or down to the least double. -/
theorem enough_of_div {target : Int} {count : Nat} (positive : 0 < mantissa)
    (positive' : 0 < mantissa')
    (made : target = min (exponent - exponent') (Format.binary64.targetExponent
      (totalExponent mantissa exponent - totalExponent mantissa' exponent')))
    (counted : count = (exponent - exponent' - target).toNat) :
    2 ^ 52 ≤ mantissa * 2 ^ count / mantissa' ∨ target ≤ -1074 := by
  have low := Nat.log2_self_le (Nat.ne_of_gt positive)
  have high : mantissa' < 2 ^ (mantissa'.log2 + 1) := Nat.lt_log2_self
  have exponents : Format.binary64.targetExponent
        (totalExponent mantissa exponent - totalExponent mantissa' exponent') =
      max ((mantissa.log2 : Int) + exponent - (mantissa'.log2 + exponent') - 53) (-1074) := by
    show max ((mantissa.log2 : Int) + 1 + exponent - ((mantissa'.log2 : Int) + 1 + exponent') - 53)
      (-1074) = _
    omega
  rw [exponents] at made
  by_cases tiny : target ≤ -1074
  · exact Or.inr tiny
  · left
    rw [Nat.le_div_iff_mul_le positive']
    calc 2 ^ 52 * mantissa' ≤ 2 ^ 52 * 2 ^ (mantissa'.log2 + 1) :=
          Nat.mul_le_mul_left _ (Nat.le_of_lt high)
      _ = 2 ^ (52 + (mantissa'.log2 + 1)) := (Nat.pow_add 2 _ _).symm
      _ ≤ 2 ^ (mantissa.log2 + count) := Nat.pow_le_pow_right Nat.two_pos (by omega)
      _ = 2 ^ mantissa.log2 * 2 ^ count := Nat.pow_add 2 _ _
      _ ≤ mantissa * 2 ^ count := Nat.mul_le_mul_right _ low

theorem amounts_div_finite :
    Amounts (sign / sign')
      (nearest (mantissa * up (exponent - exponent')) (mantissa' * down (exponent - exponent')))
      (repacked (UnpackedFloat.div Format.binary64 (.finite sign mantissa exponent positive)
        (.finite sign' mantissa' exponent' positive'))) := by
  unfold UnpackedFloat.div divCore
  dsimp only
  rw [Nat.shiftLeft_eq]
  generalize made : min (exponent - exponent') (Format.binary64.targetExponent
    (totalExponent mantissa exponent - totalExponent mantissa' exponent')) = target
  generalize counted : (exponent - exponent' - target).toNat = count
  have enough := enough_of_long (enough_of_div positive positive' made.symm counted.symm)
  have rounded := amounts_roundWithAccuracy (sign / sign') positive'
    (Nat.mod_lt (mantissa * 2 ^ count) positive') enough
  have whole : mantissa * 2 ^ count / mantissa' * mantissa' + mantissa * 2 ^ count % mantissa' =
      mantissa * 2 ^ count := by
    rw [Nat.mul_comm _ mantissa']
    exact Nat.div_add_mod _ _
  have digits : exponent - exponent' + (0 : Nat) = target + count := by omega
  have same : nearest (mantissa * 2 ^ count * up target) (mantissa' * down target) =
      nearest (mantissa * up (exponent - exponent')) (mantissa' * down (exponent - exponent')) := by
    refine nearest_congr (Nat.mul_pos positive' (down_pos _)) (Nat.mul_pos positive' (down_pos _)) ?_
    have exchanged := two_pow_mul_up digits
    rw [Nat.pow_zero, Nat.one_mul] at exchanged
    calc mantissa * 2 ^ count * up target * (mantissa' * down (exponent - exponent'))
        = mantissa * mantissa' * (2 ^ count * up target * down (exponent - exponent')) := by ring
      _ = mantissa * up (exponent - exponent') * (mantissa' * down target) := by
          rw [← exchanged]
          ring
  rw [whole, same] at rounded
  exact rounded

end Finite

section Operations

variable {x y : Float} {sign sign' : Sign} {amount amount' : Nat}

/-- The product of two amounts, measured in the least double. -/
theorem nearest_mul_units {mantissa mantissa' : Nat} {exponent exponent' : Int}
    (least : -1074 ≤ exponent) (least' : -1074 ≤ exponent') :
    nearest (mantissa * mantissa' * up (exponent + exponent')) (down (exponent + exponent')) =
      nearest (units mantissa exponent * units mantissa' exponent') one := by
  have scales : up (exponent + exponent') * one =
      up exponent * up exponent' * down (exponent + exponent') := by
    unfold one up down
    rw [← Nat.pow_add, ← Nat.pow_add, ← Nat.pow_add]
    exact congrArg (2 ^ ·) (by omega)
  refine nearest_congr (down_pos _) one_pos ?_
  calc mantissa * mantissa' * up (exponent + exponent') * one
      = mantissa * mantissa' * (up exponent * up exponent' * down (exponent + exponent')) := by
        rw [Nat.mul_assoc, scales]
    _ = mantissa * up exponent * (mantissa' * up exponent') * down (exponent + exponent') := by ring

/-- The quotient of two amounts, measured in the least double. -/
theorem nearest_div_units {mantissa mantissa' : Nat} {exponent exponent' : Int}
    (positive' : 0 < mantissa') (least : -1074 ≤ exponent) (least' : -1074 ≤ exponent') :
    nearest (mantissa * up (exponent - exponent')) (mantissa' * down (exponent - exponent')) =
      nearest (units mantissa exponent * one) (units mantissa' exponent') := by
  have scales : up (exponent - exponent') * up exponent' =
      up exponent * one * down (exponent - exponent') := by
    unfold one up down
    rw [← Nat.pow_add, ← Nat.pow_add, ← Nat.pow_add]
    exact congrArg (2 ^ ·) (by omega)
  refine nearest_congr (Nat.mul_pos positive' (down_pos _)) (units_pos positive' exponent') ?_
  calc mantissa * up (exponent - exponent') * (mantissa' * up exponent')
      = mantissa * mantissa' * (up (exponent - exponent') * up exponent') := by ring
    _ = mantissa * up exponent * one * (mantissa' * down (exponent - exponent')) := by
        rw [scales]
        ring

/-- The product of finite doubles is the nearest one to the exact product. -/
theorem amounts_mul (left : Amounts sign amount x.toModel.unpack)
    (right : Amounts sign' amount' y.toModel.unpack) (below : amount < limit)
    (below' : amount' < limit) :
    Amounts (sign * sign') (nearest (amount * amount') one) (x * y).toModel.unpack := by
  rw [unpack_mul]
  rcases left.cases below with ⟨zero, rfl⟩ | ⟨mantissa, exponent, positive, found, canonical, rfl⟩
  · have product : UnpackedFloat.mul Format.binary64 x.toModel.unpack y.toModel.unpack =
        .zero (sign * sign') := by
      rw [zero]
      rcases right.cases below' with ⟨zero', -⟩ | ⟨_, _, _, found', -⟩
      · rw [zero']
        rfl
      · rw [found']
        rfl
    rw [product, repacked_zero, Nat.zero_mul, nearest_zero one_pos]
    exact ⟨rfl, rfl⟩
  · rcases right.cases below' with
      ⟨zero', rfl⟩ | ⟨mantissa', exponent', positive', found', canonical', rfl⟩
    · rw [found, zero', Nat.mul_zero, nearest_zero one_pos]
      show Amounts _ _ (repacked (.zero (sign * sign')))
      rw [repacked_zero]
      exact ⟨rfl, rfl⟩
    · have long : 2 ^ 52 ≤ mantissa * mantissa' ∨ exponent + exponent' ≤ -1074 := by
        rcases canonical.full with full | bottom
        · exact Or.inl (Nat.le_trans full (Nat.le_mul_of_pos_right _ positive'))
        · rcases canonical'.full with full' | bottom'
          · exact Or.inl (Nat.le_trans full' (Nat.le_mul_of_pos_left _ positive))
          · exact Or.inr (by omega)
      rw [found, found', ← nearest_mul_units canonical.least canonical'.least]
      exact amounts_mul_finite long

/-- The quotient of finite doubles is the nearest one to the exact quotient. -/
theorem amounts_div (left : Amounts sign amount x.toModel.unpack)
    (right : Amounts sign' amount' y.toModel.unpack) (below : amount < limit)
    (below' : amount' < limit) (nonzero : 0 < amount') :
    Amounts (sign / sign') (nearest (amount * one) amount') (x / y).toModel.unpack := by
  show Amounts _ _ (repacked
    (UnpackedFloat.div Format.binary64 x.toModel.unpack y.toModel.unpack))
  rcases right.cases below' with
    ⟨-, none⟩ | ⟨mantissa', exponent', positive', found', canonical', rfl⟩
  · exact absurd none (Nat.ne_of_gt nonzero)
  · rcases left.cases below with ⟨zero, rfl⟩ | ⟨mantissa, exponent, positive, found, canonical, rfl⟩
    · rw [zero, found', Nat.zero_mul, nearest_zero nonzero]
      show Amounts _ _ (repacked (.zero (sign / sign')))
      rw [repacked_zero]
      exact ⟨rfl, rfl⟩
    · rw [found, found', ← nearest_div_units positive' canonical.least canonical'.least]
      exact amounts_div_finite

end Operations

end Double

end ReleasePlayer
