/-
This file proves that products and quotients of doubles keep the order. A double that is finite and not
negative is measured by its amount, and doubles are in the order of their amounts; since rounding keeps
the order of numbers, so do products and quotients, as long as the greater one is finite.
-/

import ReleasePlayer.Proofs.Double.Products

namespace ReleasePlayer

namespace Double

open Float.Model Float.Model.UnpackedFloat

/-! ### Amounts and the order -/

/-- A double is finite, not negative, and has an amount. -/
structure Measures (x : Float) (amount : Nat) : Prop where
  nonneg : 0.0 ≤ x
  below : amount < limit
  amounts : ∃ sign, Amounts sign amount x.toModel.unpack

theorem exists_measures {x : Float} (nonneg : 0.0 ≤ x) (finite : x.isFinite = true) :
    ∃ amount, Measures x amount := by
  obtain ⟨sign, amount, below, amounts⟩ := exists_amounts finite
  exact ⟨amount, nonneg, below, sign, amounts⟩

variable {x y z factor : Float} {amount amount' : Nat} {sign : Sign}

theorem Measures.isFinite (measures : Measures x amount) : x.isFinite = true := by
  obtain ⟨sign, amounts⟩ := measures.amounts
  exact amounts.isFinite_iff.mpr measures.below

/-- What is measured is a zero of either sign, or positive. -/
theorem Measures.cases (measures : Measures x amount) :
    (∃ sign, x.toModel.unpack = .zero sign ∧ amount = 0) ∨ ∃ mantissa exponent positive,
      x.toModel.unpack = .finite .positive mantissa exponent positive ∧
        Canonical mantissa exponent ∧ amount = units mantissa exponent := by
  obtain ⟨sign, amounts⟩ := measures.amounts
  have nonneg := zero_le_iff.mp measures.nonneg
  rcases amounts.cases measures.below with zero | ⟨mantissa, exponent, positive, found, rest⟩
  · exact Or.inl ⟨sign, zero⟩
  · rw [found] at nonneg
    cases sign with
    | negative => cases nonneg
    | positive => exact Or.inr ⟨mantissa, exponent, positive, found, rest⟩

theorem measures_of_amounts (amounts : Amounts sign amount x.toModel.unpack)
    (nonneg : sign = .positive ∨ amount = 0) (below : amount < limit) : Measures x amount := by
  refine ⟨zero_le_iff.mpr ?_, below, sign, amounts⟩
  rcases amounts.cases below with ⟨zero, -⟩ | ⟨mantissa, exponent, positive, found, -, rfl⟩
  · rw [zero]
    trivial
  · rw [found]
    rcases nonneg with rfl | none
    · trivial
    · exact absurd none (Nat.ne_of_gt (units_pos positive exponent))

/-- Doubles are in the order of their amounts. -/
theorem Measures.le_iff (left : Measures x amount) (right : Measures y amount') :
    x ≤ y ↔ amount ≤ amount' := by
  rcases left.cases with ⟨sign, zero, rfl⟩ | ⟨mantissa, exponent, positive, found, canonical, rfl⟩
  · exact ⟨fun _ => Nat.zero_le _, fun _ => le_of_zero zero (zero_le_iff.mp right.nonneg)⟩
  · rw [float_le_iff]
    unfold placeOf?
    rw [found]
    rcases right.cases with
      ⟨sign', zero', rfl⟩ | ⟨mantissa', exponent', positive', found', canonical', rfl⟩
    · rw [zero']
      have some := units_pos positive exponent
      constructor
      · rintro ⟨first, second, firstPlace, secondPlace, notPast⟩
        obtain rfl := Option.some.inj firstPlace
        obtain rfl := Option.some.inj secondPlace
        rcases notPast with less | ⟨same, -⟩
        · exact absurd less (by show ¬ (1 : Int) < 0; decide)
        · exact absurd same (by show ¬ (1 : Int) = 0; decide)
      · intro le
        omega
    · constructor
      · intro le
        refine units_le_of_le found found' (float_le_iff.mpr ?_)
        unfold placeOf?
        rwa [found]
      · intro le
        rw [found']
        exact ⟨_, _, rfl, rfl, notPast_of_units_le canonical canonical' le⟩

/-- A positive double is determined by its amount. -/
theorem Measures.unique (left : Measures x amount) (right : Measures y amount) (some : 0 < amount) :
    x = y := by
  rcases left.cases with ⟨-, -, rfl⟩ | ⟨mantissa, exponent, positive, found, canonical, rfl⟩
  · exact absurd some (Nat.lt_irrefl 0)
  · rcases right.cases with ⟨-, -, none⟩ | ⟨mantissa', exponent', positive', found', canonical', same⟩
    · exact absurd none (Nat.ne_of_gt some)
    · obtain ⟨rfl, rfl⟩ := units_injective canonical canonical' same
      exact eq_of_unpack (found.trans found'.symm)

theorem Measures.pos_iff (measures : Measures x amount) : 0.0 < x ↔ 0 < amount := by
  have zero : Measures 0.0 0 := ⟨by decide +kernel, limit_pos, .positive, rfl, rfl⟩
  rw [float_lt_iff, measures.le_iff zero]
  have nonneg := measures.nonneg
  constructor
  · rintro ⟨-, notZero⟩
    omega
  · intro some
    exact ⟨nonneg, by omega⟩

/-! ### Products and quotients -/

theorem Measures.signed (measures : Measures x amount) :
    ∃ sign, Amounts sign amount x.toModel.unpack ∧ (sign = .positive ∨ amount = 0) := by
  rcases measures.cases with ⟨sign, found, rfl⟩ | ⟨mantissa, exponent, positive, found, canonical, rfl⟩
  · rw [found]
    exact ⟨sign, ⟨rfl, rfl⟩, Or.inr rfl⟩
  · exact ⟨.positive, amounts_of_unpack found, Or.inl rfl⟩

theorem Measures.mul (left : Measures x amount) (right : Measures y amount')
    (below : nearest (amount * amount') one < limit) :
    Measures (x * y) (nearest (amount * amount') one) := by
  obtain ⟨sign, amounts, nonneg⟩ := left.signed
  obtain ⟨sign', amounts', nonneg'⟩ := right.signed
  refine measures_of_amounts (amounts_mul amounts amounts' left.below right.below) ?_ below
  rcases nonneg with rfl | rfl
  · rcases nonneg' with rfl | rfl
    · exact Or.inl rfl
    · rw [Nat.mul_zero]
      exact Or.inr (nearest_zero one_pos)
  · rw [Nat.zero_mul]
    exact Or.inr (nearest_zero one_pos)

theorem Measures.below_of_mul (left : Measures x amount) (right : Measures y amount')
    (finite : (x * y).isFinite = true) : nearest (amount * amount') one < limit := by
  obtain ⟨sign, amounts, -⟩ := left.signed
  obtain ⟨sign', amounts', -⟩ := right.signed
  exact (amounts_mul amounts amounts' left.below right.below).isFinite_iff.mp finite

theorem Measures.div (left : Measures x amount) (right : Measures y amount') (some : 0 < amount')
    (below : nearest (amount * one) amount' < limit) :
    Measures (x / y) (nearest (amount * one) amount') := by
  obtain ⟨sign, amounts, nonneg⟩ := left.signed
  obtain ⟨sign', amounts', nonneg'⟩ := right.signed
  obtain rfl := nonneg'.resolve_right (Nat.ne_of_gt some)
  refine measures_of_amounts (amounts_div amounts amounts' left.below right.below some) ?_ below
  rcases nonneg with rfl | rfl
  · exact Or.inl rfl
  · rw [Nat.zero_mul]
    exact Or.inr (nearest_zero some)

theorem Measures.below_of_div (left : Measures x amount) (right : Measures y amount')
    (some : 0 < amount') (finite : (x / y).isFinite = true) :
    nearest (amount * one) amount' < limit := by
  obtain ⟨sign, amounts, -⟩ := left.signed
  obtain ⟨sign', amounts', -⟩ := right.signed
  exact (amounts_div amounts amounts' left.below right.below some).isFinite_iff.mp finite

section Order

variable (nonneg : 0.0 ≤ x) (le : x ≤ y) (finite : y.isFinite = true)
  (factorFinite : factor.isFinite = true)
include nonneg le finite

/-- What is below a finite double is measured too. -/
theorem exists_measures_of_le :
    ∃ amount amount', Measures x amount ∧ Measures y amount' ∧ amount ≤ amount' := by
  have below := isFinite_between (by decide +kernel) finite nonneg le
  obtain ⟨amount, left⟩ := exists_measures nonneg below
  obtain ⟨amount', right⟩ := exists_measures (float_le_trans nonneg le) finite
  exact ⟨amount, amount', left, right, (left.le_iff right).mp le⟩

include factorFinite

/-- Multiplying by a factor keeps the order of doubles. -/
theorem mul_le_mul (factorNonneg : 0.0 ≤ factor) (bound : (y * factor).isFinite = true) :
    0.0 ≤ x * factor ∧ x * factor ≤ y * factor := by
  obtain ⟨amount, amount', left, right, amounts⟩ := exists_measures_of_le nonneg le finite
  obtain ⟨unit, scale⟩ := exists_measures factorNonneg factorFinite
  have below := right.below_of_mul scale bound
  have order : nearest (amount * unit) one ≤ nearest (amount' * unit) one :=
    nearest_mono one_pos one_pos (Nat.mul_le_mul_right _ (Nat.mul_le_mul_right _ amounts))
  have product := left.mul scale (Nat.lt_of_le_of_lt order below)
  exact ⟨product.nonneg, (product.le_iff (right.mul scale below)).mpr order⟩

/-- Dividing by a factor keeps the order of doubles. -/
theorem div_le_div (factorPositive : 0.0 < factor) (bound : (y / factor).isFinite = true) :
    0.0 ≤ x / factor ∧ x / factor ≤ y / factor := by
  obtain ⟨amount, amount', left, right, amounts⟩ := exists_measures_of_le nonneg le finite
  obtain ⟨unit, scale⟩ := exists_measures (float_lt_iff.mp factorPositive).1 factorFinite
  have some := scale.pos_iff.mp factorPositive
  have below := right.below_of_div scale some bound
  have order : nearest (amount * one) unit ≤ nearest (amount' * one) unit :=
    nearest_mono some some (Nat.mul_le_mul_right _ (Nat.mul_le_mul_right _ amounts))
  have quotient := left.div scale some (Nat.lt_of_le_of_lt order below)
  exact ⟨quotient.nonneg, (quotient.le_iff (right.div scale some below)).mpr order⟩

end Order

/-! ### Results that are not finite -/

theorem not_isFinite_div_of_zero (x : Float) (zero : ∃ sign, y.toModel.unpack = .zero sign) :
    ¬ (x / y).isFinite = true := by
  obtain ⟨sign', zero⟩ := zero
  show ¬ (repacked (UnpackedFloat.div Format.binary64 x.toModel.unpack y.toModel.unpack)).isFinite =
    true
  rw [zero]
  cases x.toModel.unpack with
  | notANumber => exact ne_true_of_eq_false (congrArg _ repacked_notANumber)
  | infinity sign => exact ne_true_of_eq_false (congrArg _ (repacked_infinity _))
  | zero sign => exact ne_true_of_eq_false (congrArg _ repacked_notANumber)
  | finite sign mantissa exponent positive =>
    exact ne_true_of_eq_false (congrArg _ (repacked_infinity _))

theorem not_isFinite_div_of_infinity (y : Float)
    (infinite : x.toModel.unpack = .infinity .positive) :
    ¬ (x / y).isFinite = true := by
  show ¬ (repacked (UnpackedFloat.div Format.binary64 x.toModel.unpack y.toModel.unpack)).isFinite =
    true
  rw [infinite]
  cases y.toModel.unpack with
  | notANumber => exact ne_true_of_eq_false (congrArg _ repacked_notANumber)
  | infinity sign => exact ne_true_of_eq_false (congrArg _ repacked_notANumber)
  | zero sign => exact ne_true_of_eq_false (congrArg _ (repacked_infinity _))
  | finite sign mantissa exponent positive =>
    exact ne_true_of_eq_false (congrArg _ (repacked_infinity _))

/-- What is not negative and not finite is infinite. -/
theorem unpack_of_not_isFinite (nonneg : 0.0 ≤ x) (infinite : ¬ x.isFinite = true) :
    x.toModel.unpack = .infinity .positive := by
  have infinite : ¬ x.toModel.unpack.isFinite = true := infinite
  rcases isNonneg_cases (zero_le_iff.mp nonneg) with ⟨sign, zero⟩ | found | ⟨_, _, _, found⟩
  · exact absurd (by rw [zero]; rfl) infinite
  · exact found
  · exact absurd (by rw [found]; rfl) infinite

theorem unpack_of_not_pos (nonneg : 0.0 ≤ x) (notPositive : ¬ 0.0 < x) :
    ∃ sign, x.toModel.unpack = .zero sign := by
  have le : x ≤ 0.0 := by
    by_contra notLe
    exact notPositive (float_lt_iff.mpr ⟨nonneg, notLe⟩)
  have zeroFinite : (0.0 : Float).isFinite = true := by decide +kernel
  obtain ⟨amount, measures⟩ := exists_measures nonneg (isFinite_between zeroFinite zeroFinite nonneg le)
  rcases measures.cases with ⟨sign, zero, -⟩ | ⟨mantissa, exponent, positive, -, -, rfl⟩
  · exact ⟨sign, zero⟩
  · exact absurd (measures.pos_iff.mpr (units_pos positive exponent)) notPositive

theorem Amounts.eq_infinity {found : UnpackedFloat} (amounts : Amounts sign amount found)
    (infinite : ¬ found.isFinite = true) : found = .infinity sign := by
  cases found with
  | notANumber => exact amounts.elim
  | infinity => exact congrArg _ amounts.1
  | zero => exact absurd rfl infinite
  | finite => exact absurd rfl infinite

/-- What is positive times what is infinite is infinite. -/
theorem unpack_mul_of_infinity (measures : Measures x amount) (some : 0 < amount)
    (infinite : factor.toModel.unpack = .infinity .positive) :
    (x * factor).toModel.unpack = .infinity .positive := by
  rcases measures.cases with ⟨-, -, rfl⟩ | ⟨mantissa, exponent, positive, found, -⟩
  · exact absurd some (Nat.lt_irrefl 0)
  · rw [unpack_mul, found, infinite]
    exact repacked_infinity _

/-- A product of what is positive that is not finite is infinite. -/
theorem unpack_mul_of_not_isFinite (measures : Measures x amount) (some : 0 < amount)
    (positive : 0.0 < factor) (infinite : ¬ (x * factor).isFinite = true) :
    (x * factor).toModel.unpack = .infinity .positive := by
  have nonneg := (float_lt_iff.mp positive).1
  by_cases finite : factor.isFinite = true
  · obtain ⟨unit, scale⟩ := exists_measures nonneg finite
    obtain ⟨sign, amounts, side⟩ := measures.signed
    obtain ⟨sign', amounts', side'⟩ := scale.signed
    obtain rfl := side.resolve_right (Nat.ne_of_gt some)
    obtain rfl := side'.resolve_right (Nat.ne_of_gt (scale.pos_iff.mp positive))
    exact (amounts_mul amounts amounts' measures.below scale.below).eq_infinity infinite
  · exact unpack_mul_of_infinity measures some (unpack_of_not_isFinite nonneg finite)

/-- A factor that leaves something positive finite is finite. -/
theorem isFinite_of_mul (measures : Measures x amount) (some : 0 < amount) (nonneg : 0.0 ≤ factor)
    (finite : (x * factor).isFinite = true) : factor.isFinite = true := by
  by_contra infinite
  have product := unpack_mul_of_infinity measures some (unpack_of_not_isFinite nonneg infinite)
  have finite : (x * factor).toModel.unpack.isFinite = true := finite
  rw [product] at finite
  cases finite

end Double

end ReleasePlayer
