/-
This file proves the laws of rounded arithmetic for doubles. Sums of doubles that are not negative are
rounded from sums that are at least as great as either part, so they do not fall below it; differences
and products keep the sign of the exact ones. What cannot be computed is undefined and stays so.
-/

import ReleasePlayer.Proofs.Double.Rounding
import ReleasePlayer.Proofs.Scalar.Order

namespace ReleasePlayer.Double

open Float.Model Float.Model.UnpackedFloat

/-! ### Results of operations -/

/-- The bits of a result are packed and unpacked again. -/
def repacked (x : UnpackedFloat) : UnpackedFloat :=
  unpack Format.binary64 (UnpackedFloat.pack Format.binary64 x)

theorem unpack_add (x y : Float) : (x + y).toModel.unpack =
    repacked (UnpackedFloat.add Format.binary64 x.toModel.unpack y.toModel.unpack) := rfl

theorem unpack_sub (x y : Float) : (x - y).toModel.unpack =
    repacked (UnpackedFloat.sub Format.binary64 x.toModel.unpack y.toModel.unpack) := rfl

theorem unpack_mul (x y : Float) : (x * y).toModel.unpack =
    repacked (UnpackedFloat.mul Format.binary64 x.toModel.unpack y.toModel.unpack) := rfl

theorem repacked_notANumber : repacked .notANumber = .notANumber := unpack_packedNaN

theorem repacked_infinity (sign : Sign) : repacked (.infinity sign) = .infinity sign := by
  unfold repacked UnpackedFloat.pack packedInfinity
  rw [unpack_packComponents]
  rfl

theorem placeOf?_zero : placeOf? 0.0 = some (0, 0, 0) := by decide +kernel

theorem zero_le_iff {x : Float} : 0.0 ≤ x ↔ IsNonneg x.toModel.unpack := by
  rw [float_le_iff, placeOf?_zero]
  unfold placeOf?
  rcases x.toModel.unpack with (_ | _) | _ | _ | ⟨_ | _, mantissa, exponent, _⟩ <;>
    simp [place?, NotPast, IsNonneg]

/-- A zero of either sign is not above what is not negative. -/
theorem le_of_zero {x y : Float} {sign : Sign} (zero : x.toModel.unpack = .zero sign)
    (nonneg : IsNonneg y.toModel.unpack) : x ≤ y := by
  obtain ⟨first, second, firstPlace, secondPlace, notPast⟩ :=
    float_le_iff.mp (zero_le_iff.mpr nonneg)
  have place : placeOf? x = placeOf? 0.0 := by
    rw [placeOf?_zero]
    unfold placeOf?
    rw [zero]
    rfl
  exact float_le_iff.mpr ⟨first, second, place.trans firstPlace, secondPlace, notPast⟩

/-- What is positive and finite is below infinity. -/
theorem le_of_infinity {x y : Float} {mantissa : Nat} {exponent : Int} {positive : 0 < mantissa}
    (left : x.toModel.unpack = .finite .positive mantissa exponent positive)
    (right : y.toModel.unpack = .infinity .positive) : x ≤ y := by
  rw [float_le_iff]
  unfold placeOf?
  rw [left, right]
  exact ⟨_, _, rfl, rfl, Or.inl (Int.lt_succ 1)⟩

theorem isNonneg_of_roundsUp {mantissa : Nat} {exponent : Int} {rounded : UnpackedFloat}
    (roundsUp : RoundsUp mantissa exponent rounded) : IsNonneg rounded := by
  obtain ⟨_, _, _, rfl, -, -⟩ := roundsUp
  trivial

theorem isNonneg_roundWithAccuracy (mantissa : Nat) (exponent : Int) (accuracy : Accuracy) :
    IsNonneg (roundWithAccuracy Format.binary64 .positive mantissa exponent accuracy) := by
  unfold roundWithAccuracy
  dsimp only
  split <;> trivial

theorem normalize_of_pos {mantissa : Nat} (positive : 0 < mantissa) (exponent : Int) (sign : Sign) :
    normalize Format.binary64 mantissa exponent sign =
      round Format.binary64 .positive mantissa exponent := by
  unfold UnpackedFloat.normalize
  rw [Int.compare_eq_gt.mpr (Int.natCast_pos.mpr positive)]
  rfl

/-! ### Sums -/

theorem canonical_of_unpack_eq {x : Float} {sign : Sign} {mantissa : Nat} {exponent : Int}
    {positive : 0 < mantissa}
    (unpacked : x.toModel.unpack = .finite sign mantissa exponent positive) :
    Canonical mantissa exponent ∧ exponent ≤ 971 := canonical_of_unpack unpacked

/-- A number written with a smaller exponent is made of as many of the least double. -/
theorem units_decreaseExponent (mantissa : Nat) {exponent target : Int} (least : -1074 ≤ target)
    (notAbove : target ≤ exponent) :
    units (decreaseExponent mantissa exponent target).1 target = units mantissa exponent := by
  unfold units decreaseExponent
  dsimp only
  rw [Nat.shiftLeft_eq, Nat.mul_assoc, ← Nat.pow_add]
  rw [show (exponent - target).toNat + (target + 1074).toNat = (exponent + 1074).toNat by omega]

theorem decreaseExponent_pos {mantissa : Nat} (positive : 0 < mantissa) (exponent target : Int) :
    0 < (decreaseExponent mantissa exponent target).1 := by
  unfold decreaseExponent
  dsimp only
  rw [Nat.shiftLeft_eq]
  exact Nat.mul_pos positive (Nat.two_pow_pos _)

/-- What a sum that had reached a canonical double is rounded to is not below it. -/
theorem le_of_roundsUp {x y : Float} {mantissa sum : Nat} {exponent common : Int}
    {positive : 0 < mantissa} {rounded : UnpackedFloat}
    (left : x.toModel.unpack = .finite .positive mantissa exponent positive)
    (right : y.toModel.unpack = repacked rounded) (roundsUp : RoundsUp sum common rounded)
    (reached : units mantissa exponent ≤ units sum common) : x ≤ y := by
  obtain ⟨mantissa', exponent', positive', rfl, canonical', keeps⟩ := roundsUp
  have canonical := (canonical_of_unpack_eq left).1
  have notPast := notPast_of_units_le canonical canonical' (keeps mantissa exponent canonical reached)
  unfold repacked at right
  rw [unpack_pack_of_canonical canonical'] at right
  split at right
  · rw [float_le_iff]
    unfold placeOf?
    rw [left, right]
    exact ⟨_, _, rfl, rfl, notPast⟩
  · exact le_of_infinity left right

theorem le_add_of_finite {x y : Float} {mantissa : Nat} {exponent : Int} {positive : 0 < mantissa}
    (left : x.toModel.unpack = .finite .positive mantissa exponent positive)
    (nonneg : IsNonneg y.toModel.unpack) : x ≤ x + y := by
  obtain ⟨canonical, fits⟩ := canonical_of_unpack_eq left
  have result := unpack_add x y
  rw [left] at result
  rcases isNonneg_cases nonneg with ⟨sign, right⟩ | right | ⟨other, exponent', positive', right⟩ <;>
    rw [right] at result
  · have same : repacked (.finite .positive mantissa exponent positive) =
        .finite .positive mantissa exponent positive := by
      unfold repacked
      rw [unpack_pack_of_canonical canonical, if_pos fits]
    have unchanged : (x + y).toModel.unpack = x.toModel.unpack :=
      (result.trans same).trans left.symm
    rw [float_le_iff]
    unfold placeOf?
    rw [unchanged, left]
    exact ⟨_, _, rfl, rfl, notPast_refl _⟩
  · exact le_of_infinity left (result.trans (repacked_infinity .positive))
  · have least : -1074 ≤ min exponent exponent' :=
      le_min canonical.least (canonical_of_unpack_eq right).1.least
    have first := units_decreaseExponent mantissa least (min_le_left exponent exponent')
    have some := decreaseExponent_pos positive exponent (min exponent exponent')
    have sum := normalize_of_pos (Nat.add_pos_left some
      (decreaseExponent other exponent' (min exponent exponent')).1) (min exponent exponent') .positive
    rw [Int.natCast_add] at sum
    refine le_of_roundsUp left (result.trans (congrArg repacked sum))
      (roundsUp_round (Nat.add_pos_left some _) least) ?_
    rw [← first]
    exact Nat.mul_le_mul_right _ (Nat.le_add_right _ _)

theorem le_add {x y : Float} (finite : x.isFinite = true) (left : 0.0 ≤ x) (right : 0.0 ≤ y) :
    x ≤ x + y := by
  have yNonneg := zero_le_iff.mp right
  rcases isNonneg_cases (zero_le_iff.mp left) with ⟨sign, zero⟩ | infinite | ⟨_, _, _, positive⟩
  · refine le_of_zero zero ?_
    rw [unpack_add, zero]
    refine isNonneg_unpack_pack ?_
    rcases isNonneg_cases yNonneg with ⟨other, right⟩ | right | ⟨_, _, _, right⟩ <;> rw [right]
    · cases sign <;> cases other <;> trivial
    · trivial
    · trivial
  · have finite : x.toModel.unpack.isFinite = true := finite
    rw [infinite] at finite
    cases finite
  · exact le_add_of_finite positive yNonneg

/-! ### Differences and products -/

/-- Doubles in order are made of numbers in order. -/
theorem units_le_of_le {x y : Float} {mantissa other : Nat} {exponent exponent' : Int}
    {positive : 0 < mantissa} {positive' : 0 < other}
    (left : x.toModel.unpack = .finite .positive mantissa exponent positive)
    (right : y.toModel.unpack = .finite .positive other exponent' positive') (le : x ≤ y) :
    units mantissa exponent ≤ units other exponent' := by
  have canonical := (canonical_of_unpack_eq left).1
  have canonical' := (canonical_of_unpack_eq right).1
  obtain ⟨first, second, firstPlace, secondPlace, notPast⟩ := float_le_iff.mp le
  unfold placeOf? at firstPlace secondPlace
  rw [left] at firstPlace
  rw [right] at secondPlace
  obtain rfl := Option.some.inj firstPlace
  obtain rfl := Option.some.inj secondPlace
  rcases notPast with less | ⟨-, less | ⟨same, notLess⟩⟩
  · exact absurd less (Int.lt_irrefl _)
  · exact Nat.le_of_lt (units_lt_of_exponent_lt canonical canonical' less)
  · obtain rfl : exponent = exponent' := same
    exact Nat.mul_le_mul_right _ (Int.ofNat_le.mp notLess)

theorem isNonneg_normalize (mantissa : Nat) {exponent : Int} (least : -1074 ≤ exponent) :
    IsNonneg (normalize Format.binary64 mantissa exponent .positive) := by
  rcases Nat.eq_zero_or_pos mantissa with rfl | positive
  · trivial
  · rw [normalize_of_pos positive]
    exact isNonneg_of_roundsUp (roundsUp_round positive least)

/-- The difference of two positive doubles in order is not negative. -/
theorem isNonneg_sub_of_finite {x y : Float} {mantissa other : Nat} {exponent exponent' : Int}
    {positive : 0 < mantissa} {positive' : 0 < other}
    (left : x.toModel.unpack = .finite .positive mantissa exponent positive)
    (right : y.toModel.unpack = .finite .positive other exponent' positive') (le : x ≤ y) :
    IsNonneg (UnpackedFloat.sub Format.binary64 y.toModel.unpack x.toModel.unpack) := by
  have least : -1074 ≤ min exponent' exponent :=
    le_min (canonical_of_unpack_eq right).1.least (canonical_of_unpack_eq left).1.least
  have reached := units_le_of_le left right le
  rw [← units_decreaseExponent _ least (min_le_left exponent' exponent),
    ← units_decreaseExponent _ least (min_le_right exponent' exponent)] at reached
  have whole := Nat.le_of_mul_le_mul_right reached (Nat.two_pow_pos _)
  have nonneg := isNonneg_normalize
    ((decreaseExponent other exponent' (min exponent' exponent)).1 -
      (decreaseExponent mantissa exponent (min exponent' exponent)).1) least
  rw [Int.ofNat_sub whole] at nonneg
  rw [left, right]
  exact nonneg

theorem sub_nonneg {x y : Float} (finite : y.isFinite = true) (left : 0.0 ≤ x) (le : x ≤ y) :
    0.0 ≤ y - x := by
  have xFinite : x.toModel.unpack.isFinite = true :=
    isFinite_between (by decide +kernel) finite left le
  have yNonneg := zero_le_iff.mp (float_le_trans left le)
  rw [zero_le_iff, unpack_sub]
  refine isNonneg_unpack_pack ?_
  rcases isNonneg_cases (zero_le_iff.mp left) with ⟨sign, zero⟩ | infinite | ⟨_, _, _, positive⟩
  · rcases isNonneg_cases yNonneg with ⟨other, right⟩ | right | ⟨_, _, _, right⟩ <;>
      rw [zero, right]
    · cases sign <;> cases other <;> trivial
    · trivial
    · trivial
  · rw [infinite] at xFinite
    cases xFinite
  · rcases isNonneg_cases yNonneg with ⟨other, right⟩ | right | ⟨_, _, _, right⟩
    · obtain ⟨first, second, firstPlace, secondPlace, notPast⟩ := float_le_iff.mp le
      unfold placeOf? at firstPlace secondPlace
      rw [positive] at firstPlace
      rw [right] at secondPlace
      obtain rfl := Option.some.inj firstPlace
      obtain rfl := Option.some.inj secondPlace
      rcases notPast with less | ⟨same, -⟩
      · exact absurd less (by show ¬ (1 : Int) < 0; decide)
      · exact absurd same (by show ¬ (1 : Int) = 0; decide)
    · rw [positive, right]
      trivial
    · exact isNonneg_sub_of_finite positive right le

theorem not_refl_of_notANumber {x : Float} (undefined : x.toModel.unpack = .notANumber) :
    ¬ x ≤ x := by
  rw [float_refl_iff]
  unfold placeOf?
  rw [undefined]
  rintro ⟨place, found⟩
  cases found

theorem mul_nonneg {x y : Float} (left : 0.0 ≤ x) (right : 0.0 ≤ y) (defined : x * y ≤ x * y) :
    0.0 ≤ x * y := by
  have result := unpack_mul x y
  by_cases undefined :
      UnpackedFloat.mul Format.binary64 x.toModel.unpack y.toModel.unpack = .notANumber
  · rw [undefined, repacked_notANumber] at result
    exact absurd defined (not_refl_of_notANumber result)
  · rw [zero_le_iff, result]
    refine isNonneg_unpack_pack ?_
    rcases isNonneg_cases (zero_le_iff.mp left) with ⟨sign, zero⟩ | zero | ⟨_, _, _, zero⟩ <;>
      rcases isNonneg_cases (zero_le_iff.mp right) with ⟨other, other'⟩ | other' | ⟨_, _, _, other'⟩ <;>
      rw [zero, other'] at undefined ⊢
    all_goals first | trivial | exact absurd rfl undefined | exact isNonneg_roundWithAccuracy _ _ _

theorem refl_of_add {x y : Float} (defined : x + y ≤ x + y) : y ≤ y := by
  by_cases undefined : y.toModel.unpack = .notANumber
  · have sum : UnpackedFloat.add Format.binary64 x.toModel.unpack y.toModel.unpack =
        .notANumber := by
      rw [undefined]
      rcases x.toModel.unpack with _ | _ | _ | _ <;> rfl
    have result := unpack_add x y
    rw [sum, repacked_notANumber] at result
    exact absurd defined (not_refl_of_notANumber result)
  · rw [float_refl_iff]
    unfold placeOf?
    generalize y.toModel.unpack = summand at undefined
    rcases summand with (_ | _) | _ | _ | ⟨_ | _, _, _, _⟩
    all_goals first | exact ⟨_, rfl⟩ | exact absurd rfl undefined

/-! ### The laws -/

instance : Scalar.Rounded Float where
  le_trans := float_le_trans
  lt_iff := float_lt_iff
  le_total := float_le_total
  refl_left le := by
    obtain ⟨place, -, found, -⟩ := float_le_iff.mp le
    exact float_refl_iff.mpr ⟨place, found⟩
  refl_right le := by
    obtain ⟨-, place, -, found, -⟩ := float_le_iff.mp le
    exact float_refl_iff.mpr ⟨place, found⟩
  refl_of_isFinite finite := by
    obtain ⟨place, found, -⟩ := isFinite_iff.mp finite
    exact float_refl_iff.mpr ⟨place, found⟩
  isFinite_between := isFinite_between
  zero_le_one := by decide +kernel
  sub_nonneg := sub_nonneg
  mul_nonneg := mul_nonneg
  le_add := le_add
  refl_of_add := refl_of_add

end ReleasePlayer.Double
