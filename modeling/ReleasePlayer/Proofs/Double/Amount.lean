/-
This file proves that products and quotients of doubles are rounded correctly. How much a finite double is
made of, in least doubles, is its amount; with its sign it determines the double. The amount of a product
or a quotient is the nearest number to the exact one, and if that is beyond the doubles, the result is
infinite. Everything that doubles owe to rounding follows from this and from what is known of nearest
numbers: it keeps the order, and it changes nothing that is a double already.
-/

import ReleasePlayer.Proofs.Double.Arithmetic
import ReleasePlayer.Proofs.Double.Nearest

namespace ReleasePlayer

namespace Double

open Decimal (roundDiv IsNearest isNearest_roundDiv)
open Float.Model Float.Model.UnpackedFloat

/-! ### Amounts -/

/-- The least amount that is beyond the doubles. -/
def limit : Nat := units (2 ^ 53) 971

theorem units_pos {mantissa : Nat} (positive : 0 < mantissa) (exponent : Int) :
    0 < units mantissa exponent :=
  Nat.mul_pos positive (Nat.two_pow_pos _)

theorem limit_pos : 0 < limit := units_pos (Nat.two_pow_pos 53) 971

/-- A double has a sign and an amount; infinity stands for every amount beyond the doubles. -/
def Amounts (sign : Sign) (amount : Nat) : UnpackedFloat → Prop
  | .zero sign' => sign' = sign ∧ amount = 0
  | .finite sign' mantissa exponent _ =>
    sign' = sign ∧ Canonical mantissa exponent ∧ exponent ≤ 971 ∧ units mantissa exponent = amount
  | .infinity sign' => sign' = sign ∧ limit ≤ amount
  | .notANumber => False

theorem units_lt_limit {mantissa : Nat} {exponent : Int} (small : mantissa < 2 ^ 53)
    (fits : exponent ≤ 971) : units mantissa exponent < limit := by
  refine Nat.mul_lt_mul_of_lt_of_le small ?_ (Nat.two_pow_pos _)
  exact Nat.pow_le_pow_right Nat.two_pos (by omega)

theorem limit_le_units {mantissa : Nat} {exponent : Int} (canonical : Canonical mantissa exponent)
    (beyond : 971 < exponent) : limit ≤ units mantissa exponent := by
  have full := canonical.full.resolve_right (by omega)
  have powers : 2 ^ ((971 + 1074 : Int).toNat + 1) ≤ 2 ^ (exponent + 1074).toNat :=
    Nat.pow_le_pow_right Nat.two_pos (by omega)
  calc limit = 2 ^ 52 * 2 ^ ((971 + 1074 : Int).toNat + 1) := by
        unfold limit units
        ring
    _ ≤ mantissa * 2 ^ (exponent + 1074).toNat := Nat.mul_le_mul full powers

theorem amounts_of_unpack {x : Float} {sign : Sign} {mantissa : Nat} {exponent : Int}
    {positive : 0 < mantissa}
    (unpacked : x.toModel.unpack = .finite sign mantissa exponent positive) :
    Amounts sign (units mantissa exponent) x.toModel.unpack := by
  obtain ⟨canonical, fits⟩ := canonical_of_unpack_eq unpacked
  rw [unpacked]
  exact ⟨rfl, canonical, fits, rfl⟩

/-- Every finite double has an amount, and it is below the limit. -/
theorem exists_amounts {x : Float} (finite : x.isFinite = true) :
    ∃ sign amount, amount < limit ∧ Amounts sign amount x.toModel.unpack := by
  have finite : x.toModel.unpack.isFinite = true := finite
  cases unpacked : x.toModel.unpack with
  | notANumber =>
    rw [unpacked] at finite
    cases finite
  | infinity sign =>
    rw [unpacked] at finite
    cases finite
  | zero sign => exact ⟨sign, 0, limit_pos, rfl, rfl⟩
  | finite sign mantissa exponent positive =>
    obtain ⟨canonical, fits⟩ := canonical_of_unpack_eq unpacked
    exact ⟨sign, _, units_lt_limit canonical.small fits, rfl, canonical, fits, rfl⟩

theorem Amounts.isFinite_iff {sign : Sign} {amount : Nat} {x : UnpackedFloat}
    (amounts : Amounts sign amount x) : x.isFinite = true ↔ amount < limit := by
  cases x with
  | notANumber => exact amounts.elim
  | infinity sign' => exact ⟨nofun, fun below => absurd below (Nat.not_lt_of_le amounts.2)⟩
  | zero sign' =>
    obtain ⟨-, rfl⟩ := amounts
    exact ⟨fun _ => limit_pos, fun _ => rfl⟩
  | finite sign' mantissa exponent positive =>
    obtain ⟨-, canonical, fits, rfl⟩ := amounts
    exact ⟨fun _ => units_lt_limit canonical.small fits, fun _ => rfl⟩

theorem units_injective {mantissa mantissa' : Nat} {exponent exponent' : Int}
    (first : Canonical mantissa exponent) (second : Canonical mantissa' exponent')
    (same : units mantissa exponent = units mantissa' exponent') :
    mantissa = mantissa' ∧ exponent = exponent' := by
  rcases lt_trichotomy exponent exponent' with less | rfl | greater
  · exact absurd same (Nat.ne_of_lt (units_lt_of_exponent_lt first second less))
  · exact ⟨Nat.eq_of_mul_eq_mul_right (Nat.two_pow_pos _) same, rfl⟩
  · exact absurd same (Nat.ne_of_gt (units_lt_of_exponent_lt second first greater))

/-- An amount below the limit belongs to a zero or to a canonical mantissa with its exponent. -/
theorem Amounts.cases {sign : Sign} {amount : Nat} {x : UnpackedFloat}
    (amounts : Amounts sign amount x) (below : amount < limit) :
    (x = .zero sign ∧ amount = 0) ∨ ∃ mantissa exponent positive,
      x = .finite sign mantissa exponent positive ∧ Canonical mantissa exponent ∧
        amount = units mantissa exponent := by
  have finite := amounts.isFinite_iff.mpr below
  cases x with
  | notANumber => cases finite
  | infinity => cases finite
  | zero =>
    obtain ⟨rfl, rfl⟩ := amounts
    exact Or.inl ⟨rfl, rfl⟩
  | finite _ mantissa exponent positive =>
    obtain ⟨rfl, canonical, -, rfl⟩ := amounts
    exact Or.inr ⟨mantissa, exponent, positive, rfl, canonical, rfl⟩

/-- A finite double is determined by its sign and its amount. -/
theorem Amounts.unique {sign : Sign} {amount : Nat} {x y : UnpackedFloat}
    (left : Amounts sign amount x) (right : Amounts sign amount y) (below : amount < limit) :
    x = y := by
  rcases left.cases below with ⟨rfl, none⟩ | ⟨mantissa, exponent, positive, rfl, canonical, made⟩ <;>
    rcases right.cases below with
      ⟨rfl, none'⟩ | ⟨mantissa', exponent', positive', rfl, canonical', made'⟩
  · rfl
  · exact absurd (made'.symm.trans none) (Nat.ne_of_gt (units_pos positive' exponent'))
  · exact absurd (made.symm.trans none') (Nat.ne_of_gt (units_pos positive exponent))
  · obtain ⟨rfl, rfl⟩ := units_injective canonical canonical' (made.symm.trans made')
    rfl

/-! ### Cutting off digits -/

/-- An extended mantissa stands for a number: its whole part, and where in the last digit the rest
lies. -/
structure Shows (mantissa : ExtendedMantissa) (numerator denominator rest : Nat) : Prop where
  whole : numerator = mantissa.mantissa * denominator + rest
  small : rest < denominator
  roundBit : mantissa.roundBit = true ↔ denominator ≤ 2 * rest
  stickyBit : mantissa.stickyBit = true ↔ rest ≠ 0 ∧ 2 * rest ≠ denominator

theorem shows_ofMantissaAndAccuracy (mantissa : Nat) {rest denominator : Nat}
    (small : rest < denominator) :
    Shows (.ofMantissaAndAccuracy mantissa (accuracyOfFraction rest denominator))
      (mantissa * denominator + rest) denominator rest := by
  unfold accuracyOfFraction
  split
  · refine ⟨rfl, small, ?_, ?_⟩ <;> simp [ExtendedMantissa.ofMantissaAndAccuracy] <;> omega
  · rw [Nat.compare_eq_ite_lt]
    split
    · refine ⟨rfl, small, ?_, ?_⟩ <;> simp [ExtendedMantissa.ofMantissaAndAccuracy] <;> omega
    · split <;> refine ⟨rfl, small, ?_, ?_⟩ <;>
        simp [ExtendedMantissa.ofMantissaAndAccuracy] <;> omega

theorem Shows.shiftRightOne {mantissa : ExtendedMantissa} {numerator denominator rest : Nat}
    (shown : Shows mantissa numerator denominator rest) :
    Shows mantissa.shiftRightOne numerator (denominator * 2)
      (mantissa.mantissa % 2 * denominator + rest) := by
  have whole := shown.whole
  have small := shown.small
  have digits : mantissa.mantissa * denominator =
      mantissa.mantissa / 2 * (denominator * 2) + mantissa.mantissa % 2 * denominator := by
    conv_lhs => rw [← Nat.div_add_mod mantissa.mantissa 2]
    ring
  have sticky : (mantissa.roundBit || mantissa.stickyBit) = true ↔ rest ≠ 0 := by
    rw [Bool.or_eq_true, shown.roundBit, shown.stickyBit]
    omega
  have parity := Nat.mod_two_eq_zero_or_one mantissa.mantissa
  constructor
  · show numerator = mantissa.mantissa / 2 * (denominator * 2) + _
    omega
  · rcases parity with even | odd
    · rw [even]
      omega
    · rw [odd]
      omega
  · show (mantissa.mantissa % 2 != 0) = true ↔ _
    rw [bne_iff_ne]
    rcases parity with even | odd
    · rw [even]
      omega
    · rw [odd]
      omega
  · show (mantissa.roundBit || mantissa.stickyBit) = true ↔ _
    rw [sticky]
    rcases parity with even | odd
    · rw [even]
      omega
    · rw [odd]
      omega

theorem Shows.shiftRight {mantissa : ExtendedMantissa} {numerator denominator rest : Nat}
    (shown : Shows mantissa numerator denominator rest) (count : Nat) :
    ∃ rest', Shows (mantissa >>> count) numerator (denominator * 2 ^ count) rest' := by
  show ∃ rest', Shows (count.repeat ExtendedMantissa.shiftRightOne mantissa) _ _ rest'
  induction count with
  | zero =>
    rw [Nat.pow_zero, Nat.mul_one]
    exact ⟨rest, shown⟩
  | succ count inductionHypothesis =>
    obtain ⟨rest', shifted⟩ := inductionHypothesis
    rw [Nat.pow_succ, ← Nat.mul_assoc]
    exact ⟨_, shifted.shiftRightOne⟩

/-- The mantissa is rounded to the whole number that is nearest to what it stands for. -/
theorem Shows.isNearest {mantissa : ExtendedMantissa} {numerator denominator rest : Nat}
    (shown : Shows mantissa numerator denominator rest) :
    IsNearest numerator denominator mantissa.roundedMantissa := by
  obtain ⟨whole, small, roundBit, stickyBit⟩ := shown
  obtain ⟨mantissa, roundBit', stickyBit'⟩ := mantissa
  have next := Nat.add_one_mul mantissa denominator
  dsimp only at whole roundBit stickyBit
  cases roundBit' <;> cases stickyBit' <;> simp only [Bool.false_eq_true, false_iff, true_iff,
    ExtendedMantissa.roundedMantissa, ExtendedMantissa.accuracy, Accuracy.roundToNearestEven]
    at roundBit stickyBit ⊢
  · constructor <;> omega
  · constructor <;> omega
  · rcases Nat.mod_two_eq_zero_or_one mantissa with even | odd
    · rw [even, Nat.add_zero]
      constructor <;> omega
    · rw [odd]
      constructor <;> omega
  · constructor <;> omega

/-! ### Rounding -/

/-- The factors by which a number with a binary exponent becomes a fraction of amounts. -/
def up (exponent : Int) : Nat := 2 ^ (exponent + 1074).toNat

def down (exponent : Int) : Nat := 2 ^ (-1074 - exponent).toNat

theorem up_pos (exponent : Int) : 0 < up exponent := Nat.two_pow_pos _

theorem down_pos (exponent : Int) : 0 < down exponent := Nat.two_pow_pos _

theorem down_of_le {exponent : Int} (least : -1074 ≤ exponent) : down exponent = 1 := by
  unfold down
  rw [show (-1074 - exponent).toNat = 0 by omega, Nat.pow_zero]

/-- Digits may be exchanged for the exponent. -/
theorem two_pow_mul_up {exponent exponent' : Int} {count count' : Nat}
    (same : exponent + count = exponent' + count') :
    2 ^ count * up exponent * down exponent' = 2 ^ count' * up exponent' * down exponent := by
  unfold up down
  rw [← Nat.pow_add, ← Nat.pow_add, ← Nat.pow_add, ← Nat.pow_add]
  exact congrArg (2 ^ ·) (by omega)

section Round

variable {mantissa rest denominator : Nat} {exponent target : Int}

/-- The exponent of rounding is the place of the number. -/
theorem place_of_targetExponent (positive : 0 < denominator) (small : rest < denominator)
    (enough : exponent ≤ target)
    (made : Format.binary64.targetExponent (totalExponent mantissa exponent) = target) :
    place ((mantissa * denominator + rest) * up exponent) (denominator * down exponent) =
      (target + 1074).toNat := by
  rw [targetExponent_eq] at made
  have above : mantissa + 1 ≤ 2 ^ (mantissa.log2 + 1) := Nat.lt_log2_self
  refine place_eq (Nat.mul_pos positive (down_pos exponent)) (fun some => ?_) ?_
  · have nonzero : mantissa ≠ 0 := by
      rintro rfl
      rw [Nat.log2_zero] at made
      omega
    have digits : 2 ^ 52 * (down exponent * 2 ^ (target + 1074).toNat) =
        2 ^ mantissa.log2 * up exponent := by
      unfold up down
      rw [← Nat.pow_add, ← Nat.pow_add, ← Nat.pow_add]
      exact congrArg (2 ^ ·) (by omega)
    calc 2 ^ 52 * (denominator * down exponent * 2 ^ (target + 1074).toNat)
        = denominator * (2 ^ 52 * (down exponent * 2 ^ (target + 1074).toNat)) := by ring
      _ = 2 ^ mantissa.log2 * denominator * up exponent := by
          rw [digits]
          ring
      _ ≤ (mantissa * denominator + rest) * up exponent :=
          Nat.mul_le_mul_right _ (Nat.le_trans
            (Nat.mul_le_mul_right _ (Nat.log2_self_le nonzero)) (Nat.le_add_right _ _))
  · have digits : 2 ^ (mantissa.log2 + 1) * up exponent ≤
        2 ^ 53 * (down exponent * 2 ^ (target + 1074).toNat) := by
      unfold up down
      rw [← Nat.pow_add, ← Nat.pow_add, ← Nat.pow_add]
      exact Nat.pow_le_pow_right (by decide) (by omega)
    calc (mantissa * denominator + rest) * up exponent
        < (mantissa + 1) * denominator * up exponent := by
          rw [Nat.add_one_mul]
          exact Nat.mul_lt_mul_of_pos_right (Nat.add_lt_add_left small _) (up_pos exponent)
      _ ≤ 2 ^ (mantissa.log2 + 1) * denominator * up exponent :=
          Nat.mul_le_mul_right _ (Nat.mul_le_mul_right _ above)
      _ = denominator * (2 ^ (mantissa.log2 + 1) * up exponent) := by ring
      _ ≤ denominator * (2 ^ 53 * (down exponent * 2 ^ (target + 1074).toNat)) :=
          Nat.mul_le_mul_left _ digits
      _ = 2 ^ 53 * (denominator * down exponent * 2 ^ (target + 1074).toNat) := by ring

/-- The mantissa that was cut off and rounded is the one of the nearest number. -/
theorem roundedMantissa_eq (positive : 0 < denominator) (small : rest < denominator)
    (enough : exponent ≤ target)
    (made : Format.binary64.targetExponent (totalExponent mantissa exponent) = target) :
    (ExtendedMantissa.ofMantissaAndAccuracy mantissa (accuracyOfFraction rest denominator) >>>
        (target - exponent).toNat).roundedMantissa =
      roundDiv ((mantissa * denominator + rest) * up exponent)
        (denominator * down exponent * 2 ^ (target + 1074).toNat) := by
  rw [targetExponent_eq] at made
  obtain ⟨rest', shown⟩ :=
    (shows_ofMantissaAndAccuracy mantissa small).shiftRight (target - exponent).toNat
  have shifted : 0 < denominator * 2 ^ (target - exponent).toNat :=
    Nat.mul_pos positive (Nat.two_pow_pos _)
  have scaled : 0 < denominator * down exponent * 2 ^ (target + 1074).toNat :=
    Nat.mul_pos (Nat.mul_pos positive (down_pos exponent)) (Nat.two_pow_pos _)
  have digits : down exponent * 2 ^ (target + 1074).toNat =
      up exponent * 2 ^ (target - exponent).toNat := by
    unfold up down
    rw [← Nat.pow_add, ← Nat.pow_add]
    exact congrArg (2 ^ ·) (by omega)
  have same : (mantissa * denominator + rest) *
        (denominator * down exponent * 2 ^ (target + 1074).toNat) =
      (mantissa * denominator + rest) * up exponent *
        (denominator * 2 ^ (target - exponent).toNat) := by
    rw [Nat.mul_assoc denominator, digits]
    ring
  have rounded := isNearest_roundDiv ((mantissa * denominator + rest) * up exponent) scaled
  exact Nat.le_antisymm (shown.isNearest.le rounded shifted scaled same.le)
    (rounded.le shown.isNearest scaled shifted same.ge)

/-- A rounded mantissa keeps its amount, also where rounding carried it into one more digit. -/
theorem amounts_shifted (sign : Sign) {rounded : Nat} {shifted : ExtendedMantissa × Int}
    (least : -1074 ≤ target) (high : rounded ≤ 2 ^ 53)
    (low : 0 < (target + 1074).toNat → 2 ^ 52 ≤ rounded)
    (made : shiftToTargetExponent Format.binary64 rounded target .exact = shifted) :
    Amounts sign (rounded * 2 ^ (target + 1074).toNat)
      (repacked (if none : shifted.1.mantissa = 0 then .zero sign
        else .finite sign shifted.1.mantissa shifted.2 (Nat.pos_of_ne_zero none))) := by
  rcases Nat.eq_zero_or_pos rounded with rfl | nonzero
  · have none : shifted.1.mantissa = 0 := by
      rw [← made, shiftToTargetExponent_eq, mantissa_shiftRight]
      exact Nat.zero_div _
    rw [dif_pos none, repacked]
    unfold UnpackedFloat.pack
    rw [unpack_packedZero]
    exact ⟨rfl, Nat.zero_mul _⟩
  · have form : Canonical rounded target ∨ rounded = 2 ^ 53 ∧ -1074 ≤ target := by
      by_cases carried : rounded = 2 ^ 53
      · exact Or.inr ⟨carried, least⟩
      · refine Or.inl ⟨by omega, least, ?_⟩
        by_cases bottom : target = -1074
        · exact Or.inr bottom
        · exact Or.inl (low (by omega))
    obtain ⟨mantissa', exponent', positive', canonical, same, mantissaEq, exponentEq⟩ :=
      shift_rounded nonzero form
    rw [made] at mantissaEq exponentEq
    subst mantissaEq exponentEq
    rw [dif_neg (Nat.ne_of_gt positive')]
    unfold repacked
    rw [unpack_pack_of_canonical canonical]
    split
    · rename_i fits
      exact ⟨rfl, canonical, fits, same⟩
    · rename_i beyond
      refine ⟨rfl, ?_⟩
      show limit ≤ units rounded target
      rw [← same]
      exact limit_le_units canonical (by omega)

/-- Rounding a number that has digits enough gives the nearest one. -/
theorem amounts_roundWithAccuracy (sign : Sign) (positive : 0 < denominator)
    (small : rest < denominator)
    (enough : exponent ≤ Format.binary64.targetExponent (totalExponent mantissa exponent)) :
    Amounts sign
      (nearest ((mantissa * denominator + rest) * up exponent) (denominator * down exponent))
      (repacked (roundWithAccuracy Format.binary64 sign mantissa exponent
        (accuracyOfFraction rest denominator))) := by
  generalize made : Format.binary64.targetExponent (totalExponent mantissa exponent) = target at *
  have placed := place_of_targetExponent positive small enough made
  have scaled := Nat.mul_pos positive (down_pos exponent)
  have least : -1074 ≤ target := by
    rw [targetExponent_eq] at made
    omega
  have high := @roundDiv_place_le ((mantissa * denominator + rest) * up exponent) _ scaled
  have low := @le_roundDiv_place ((mantissa * denominator + rest) * up exponent) _ scaled
  have first := roundedMantissa_eq positive small enough made
  unfold nearest
  rw [placed] at high low ⊢
  unfold roundWithAccuracy
  rw [show shiftToTargetExponent Format.binary64 mantissa exponent
      (accuracyOfFraction rest denominator) =
        (ExtendedMantissa.ofMantissaAndAccuracy mantissa (accuracyOfFraction rest denominator) >>>
          (target - exponent).toNat, exponent + (target - exponent).toNat) by rw [← made]; rfl]
  dsimp only
  rw [first, show exponent + ((target - exponent).toNat : Int) = target by omega]
  exact amounts_shifted sign least high low rfl

/-- A number that is known exactly leaves no rest. -/
theorem amounts_roundWithAccuracy_exact (sign : Sign)
    (enough : exponent ≤ Format.binary64.targetExponent (totalExponent mantissa exponent)) :
    Amounts sign (nearest (mantissa * up exponent) (down exponent))
      (repacked (roundWithAccuracy Format.binary64 sign mantissa exponent .exact)) := by
  have rounded := amounts_roundWithAccuracy sign Nat.one_pos Nat.zero_lt_one enough
  rwa [Nat.mul_one, Nat.add_zero, Nat.one_mul] at rounded

end Round

end Double

end ReleasePlayer
