/-
This file says what is left of a double that is packed into its bits and unpacked again. Unpacking
yields mantissas and exponents of one form only: a full mantissa of 53 bits, or a smaller one with
the least exponent. What has this form comes back as it was, unless it is too large for any exponent
and becomes infinite; what has not may change, but never its sign. The whole library is imported here
because no smaller part of it reaches its lemmas about the bits of a double.
-/

import Mathlib
import ReleasePlayer.Proofs.Double.Order

namespace ReleasePlayer.Double

open Float.Model Float.Model.UnpackedFloat

/-! ### Bits -/

theorem toNat_implicit (mantissa : BitVec 52) :
    (1#1 ++ mantissa).toNat = 2 ^ 52 + mantissa.toNat := by
  rw [BitVec.toNat_append, ← Nat.shiftLeft_add_eq_or_of_lt mantissa.isLt]
  rfl

/-- What components unpack to. -/
theorem unpack_packComponents (sign : Sign) (exponent : BitVec 11) (mantissa : BitVec 52) :
    unpack Format.binary64 (packComponents Format.binary64 sign exponent mantissa) =
      if exponent = -1#11 then
        if mantissa = 0#52 then .infinity sign else .notANumber
      else if exponent = 0#11 then
        if nonzero : mantissa = 0#52 then .zero sign
        else .finite sign mantissa.toNat (-1074) (Nat.pos_of_ne_zero fun zero =>
          nonzero (BitVec.eq_of_toNat_eq zero))
      else
        .finite sign (2 ^ 52 + mantissa.toNat) (exponent.toNat - 1075)
          (Nat.add_pos_left (by decide) _) := by
  unfold UnpackedFloat.unpack
  simp only [unpackMantissa_packComponents, unpackExponent_packComponents,
    unpackSign_packComponents, Sign.ofBitVec_toBitVec, toNat_implicit]
  split
  · rfl
  · split
    · rename_i subnormal
      subst subnormal
      split <;> rfl
    · rfl

/-! ### Canonical mantissas -/

/-- The form of the mantissas and exponents that unpacking yields. -/
structure Canonical (mantissa : Nat) (exponent : Int) : Prop where
  small : mantissa < 2 ^ 53
  least : -1074 ≤ exponent
  full : 2 ^ 52 ≤ mantissa ∨ exponent = -1074

/-- Unpacking yields canonical mantissas, and exponents that fit. -/
theorem canonical_of_unpack {bits : BitVec 64} {sign : Sign} {mantissa : Nat} {exponent : Int}
    {positive : 0 < mantissa}
    (unpacked : unpack Format.binary64 bits = .finite sign mantissa exponent positive) :
    Canonical mantissa exponent ∧ exponent ≤ 971 := by
  unfold UnpackedFloat.unpack at unpacked
  dsimp only at unpacked
  split at unpacked
  · split at unpacked <;> cases unpacked
  · rename_i notInfinite
    split at unpacked
    · rename_i subnormal
      split at unpacked
      · cases unpacked
      · rw [subnormal] at unpacked
        obtain ⟨-, rfl, rfl⟩ := UnpackedFloat.finite.inj unpacked
        have bound := (@unpackMantissa Format.binary64 bits).isLt
        exact ⟨⟨by omega, by decide, Or.inr rfl⟩, by decide⟩
    · rename_i normal
      obtain ⟨-, rfl, rfl⟩ := UnpackedFloat.finite.inj unpacked
      have mantissaBound : (@unpackMantissa Format.binary64 bits).toNat < 2 ^ 52 :=
        (@unpackMantissa Format.binary64 bits).isLt
      have exponentBound : (@unpackExponent Format.binary64 bits).toNat < 2 ^ 11 :=
        (@unpackExponent Format.binary64 bits).isLt
      have notLeast : (@unpackExponent Format.binary64 bits).toNat ≠ 0 :=
        fun least => normal (BitVec.eq_of_toNat_eq least)
      have notGreatest : (@unpackExponent Format.binary64 bits).toNat ≠ 2047 :=
        fun greatest => notInfinite (BitVec.eq_of_toNat_eq greatest)
      have whole := toNat_implicit (@unpackMantissa Format.binary64 bits)
      have bias : ((Format.binary64.exponentBias : Int) + (52 : Nat)) = 1075 := rfl
      rw [bias]
      exact ⟨⟨whole ▸ by omega, by omega, Or.inl (whole ▸ by omega)⟩, by omega⟩

/-! ### Packing and unpacking -/

/-- A mantissa with the least exponent is packed as it is. -/
theorem pack_subnormal (sign : Sign) (mantissa : BitVec 52) (positive : 0 < mantissa.toNat) :
    UnpackedFloat.pack Format.binary64 (.finite sign mantissa.toNat (-1074) positive) =
      packComponents Format.binary64 sign 0#11 mantissa := by
  have log := (Nat.log2_lt (Nat.ne_of_gt positive)).mpr mantissa.isLt
  unfold UnpackedFloat.pack
  dsimp only
  rw [if_neg (by decide), if_neg (by show ¬ mantissa.toNat.log2 + 1 = 53; omega),
    BitVec.ofNat_toNat, BitVec.setWidth_eq]

/-- A mantissa with its first digit is packed without it. -/
theorem pack_normal (sign : Sign) {exponent : BitVec 11} (notGreatest : exponent ≠ -1#11)
    (mantissa : BitVec 52) (positive : 0 < 2 ^ 52 + mantissa.toNat) :
    UnpackedFloat.pack Format.binary64
        (.finite sign (2 ^ 52 + mantissa.toNat) ((exponent.toNat : Int) - 1075) positive) =
      packComponents Format.binary64 sign exponent mantissa := by
  have below : exponent.toNat ≠ 2047 := fun greatest => notGreatest (BitVec.eq_of_toNat_eq greatest)
  have bound : exponent.toNat < 2 ^ 11 := exponent.isLt
  have small : mantissa.toNat < 2 ^ 52 := mantissa.isLt
  have log : (2 ^ 52 + mantissa.toNat).log2 = 52 :=
    (Nat.log2_eq_iff (by omega)).mpr ⟨by omega, by omega⟩
  have biased : ((exponent.toNat : Int) - 1075 + Format.binary64.exponentBias +
      Format.binary64.mantissaBitsWithoutImplicit).toNat = exponent.toNat := by
    show ((exponent.toNat : Int) - 1075 + 1023 + 52).toNat = _
    omega
  have kept : BitVec.ofNat 52 (2 ^ 52 + mantissa.toNat) = mantissa := by
    refine BitVec.eq_of_toNat_eq ?_
    rw [BitVec.toNat_ofNat]
    omega
  unfold UnpackedFloat.pack
  dsimp only
  rw [biased, if_neg (by show ¬ 2 ^ 11 ≤ exponent.toNat + 1; omega),
    if_pos (by exact congrArg (· + 1) log),
    BitVec.ofNat_toNat, BitVec.setWidth_eq, kept]

/-- A canonical double comes back as it was, unless it is too large and becomes infinite. -/
theorem unpack_pack_of_canonical {mantissa : Nat} {exponent : Int}
    (canonical : Canonical mantissa exponent) (sign : Sign) (positive : 0 < mantissa) :
    unpack Format.binary64 (UnpackedFloat.pack Format.binary64
        (.finite sign mantissa exponent positive)) =
      if exponent ≤ 971 then .finite sign mantissa exponent positive else .infinity sign := by
  have least := canonical.least
  have small := canonical.small
  by_cases fits : exponent ≤ 971
  · rw [if_pos fits]
    by_cases full : 2 ^ 52 ≤ mantissa
    · obtain ⟨field, rfl⟩ : ∃ field : BitVec 11, exponent = (field.toNat : Int) - 1075 := by
        refine ⟨BitVec.ofNat 11 (exponent + 1075).toNat, ?_⟩
        rw [BitVec.toNat_ofNat, Nat.mod_eq_of_lt (by omega)]
        omega
      obtain ⟨rest, rfl⟩ : ∃ rest : BitVec 52, mantissa = 2 ^ 52 + rest.toNat := by
        refine ⟨BitVec.ofNat 52 mantissa, ?_⟩
        rw [BitVec.toNat_ofNat]
        omega
      have notGreatest : field ≠ -1#11 := by
        rintro rfl
        revert fits
        decide
      have notLeast : field ≠ 0#11 := by
        rintro rfl
        revert least
        decide
      rw [pack_normal sign notGreatest, unpack_packComponents, if_neg notGreatest, if_neg notLeast]
    · obtain rfl := canonical.full.resolve_left full
      obtain ⟨rest, rfl⟩ : ∃ rest : BitVec 52, mantissa = rest.toNat := by
        refine ⟨BitVec.ofNat 52 mantissa, ?_⟩
        rw [BitVec.toNat_ofNat, Nat.mod_eq_of_lt (Nat.lt_of_not_le full)]
      have nonzero : rest ≠ 0#52 := by
        rintro rfl
        exact absurd positive (by decide)
      rw [pack_subnormal, unpack_packComponents, if_neg (by decide), if_pos rfl, dif_neg nonzero]
  · have biased : (exponent + Format.binary64.exponentBias +
        Format.binary64.mantissaBitsWithoutImplicit).toNat = (exponent + 1075).toNat :=
      congrArg Int.toNat (Int.add_assoc exponent 1023 52)
    unfold UnpackedFloat.pack
    dsimp only
    rw [biased, if_neg fits, if_pos (by show 2 ^ 11 ≤ _; omega)]
    unfold packedInfinity
    rw [unpack_packComponents]
    rfl

/-! ### The bits of doubles -/

theorem toBitVec_ofBitVec (bit : BitVec 1) : (Sign.ofBitVec bit).toBitVec = bit := by
  revert bit
  decide

/-- The bits of a double are its components. -/
theorem packComponents_unpack (bits : BitVec 64) :
    packComponents Format.binary64 (Sign.ofBitVec (@unpackSign Format.binary64 bits))
      (@unpackExponent Format.binary64 bits)
      (@unpackMantissa Format.binary64 bits) = bits := by
  unfold packComponents
  rw [toBitVec_ofBitVec]
  unfold unpackSign unpackExponent unpackMantissa
  refine BitVec.eq_of_getLsbD_eq fun i bound => ?_
  simp only [BitVec.getLsbD_append, BitVec.getLsbD_cast, BitVec.getLsbD_extractLsb]
  have bound : i < 64 := bound
  split
  · rw [decide_eq_true (by omega), Bool.true_and, Nat.zero_add]
  · split
    · rw [decide_eq_true (by omega), Bool.true_and]
      exact congrArg _ (by omega)
    · rw [decide_eq_true (by omega), Bool.true_and]
      exact congrArg _ (by omega)

/-- A double whose bits are valid is packed into the same bits again. -/
theorem pack_unpack {bits : BitVec 64} (valid : Format.binary64.Valid bits) :
    UnpackedFloat.pack Format.binary64 (unpack Format.binary64 bits) = bits := by
  have whole := packComponents_unpack bits
  have canonical := valid.eq_packedNaN
  generalize Sign.ofBitVec (@unpackSign Format.binary64 bits) = sign at whole
  generalize (@unpackExponent Format.binary64 bits : BitVec 11) = exponent at whole canonical
  generalize (@unpackMantissa Format.binary64 bits : BitVec 52) = mantissa at whole canonical
  rw [← whole] at canonical ⊢
  rw [unpack_packComponents]
  split
  · rename_i greatest
    split
    · rename_i none
      rw [greatest, none]
      rfl
    · rename_i some
      exact (canonical greatest some).symm
  · rename_i notGreatest
    split
    · rename_i least
      split
      · rename_i none
        rw [least, none]
        rfl
      · rw [least]
        exact pack_subnormal sign mantissa _
    · exact pack_normal sign notGreatest mantissa _

/-- Doubles that unpack to the same are the same. -/
theorem eq_of_unpack {x y : Float} (same : x.toModel.unpack = y.toModel.unpack) : x = y := by
  obtain ⟨⟨xBits, xValid⟩⟩ := x
  obtain ⟨⟨yBits, yValid⟩⟩ := y
  have bits : xBits.toBitVec = yBits.toBitVec :=
    (pack_unpack xValid).symm.trans ((congrArg _ same).trans (pack_unpack yValid))
  obtain rfl := UInt64.eq_of_toBitVec_eq bits
  rfl

/-! ### Signs -/

/-- Whether a double is defined and not below zero; a negative zero is not. -/
def IsNonneg : UnpackedFloat → Prop
  | .zero _ => True
  | .infinity .positive => True
  | .finite .positive _ _ _ => True
  | _ => False

theorem isNonneg_cases {x : UnpackedFloat} (nonneg : IsNonneg x) :
    (∃ sign, x = .zero sign) ∨ x = .infinity .positive ∨
      ∃ mantissa exponent positive, x = .finite .positive mantissa exponent positive := by
  rcases x with (_ | _) | _ | sign | ⟨_ | _, mantissa, exponent, positive⟩
  · cases nonneg
  · exact Or.inr (Or.inl rfl)
  · cases nonneg
  · exact Or.inl ⟨sign, rfl⟩
  · cases nonneg
  · exact Or.inr (Or.inr ⟨mantissa, exponent, positive, rfl⟩)

/-- Components without a negative sign unpack to no negative double, unless they are undefined. -/
theorem isNonneg_unpack_packComponents {exponent : BitVec 11} (notGreatest : exponent ≠ -1#11)
    (mantissa : BitVec 52) :
    IsNonneg (unpack Format.binary64
      (packComponents Format.binary64 .positive exponent mantissa)) := by
  rw [unpack_packComponents, if_neg notGreatest]
  split
  · split <;> trivial
  · trivial

/-- Packing keeps doubles from falling below zero, whatever their form. -/
theorem isNonneg_unpack_pack {x : UnpackedFloat} (nonneg : IsNonneg x) :
    IsNonneg (unpack Format.binary64 (UnpackedFloat.pack Format.binary64 x)) := by
  rcases isNonneg_cases nonneg with ⟨sign, rfl⟩ | rfl | ⟨mantissa, exponent, positive, rfl⟩
  · unfold UnpackedFloat.pack
    rw [unpack_packedZero]
    trivial
  · unfold UnpackedFloat.pack packedInfinity
    rw [unpack_packComponents]
    trivial
  · unfold UnpackedFloat.pack
    dsimp only
    split
    · unfold packedInfinity
      rw [unpack_packComponents]
      trivial
    · rename_i fits
      split
      · refine isNonneg_unpack_packComponents (fun greatest => fits ?_) _
        have field := congrArg BitVec.toNat greatest
        rw [BitVec.toNat_ofNat] at field
        have field : _ % 2 ^ 11 = 2047 := field
        have wraps := Nat.mod_le (exponent + Format.binary64.exponentBias +
          Format.binary64.mantissaBitsWithoutImplicit).toNat (2 ^ 11)
        show 2 ^ 11 ≤ _
        omega
      · exact isNonneg_unpack_packComponents (by decide) _

end ReleasePlayer.Double
