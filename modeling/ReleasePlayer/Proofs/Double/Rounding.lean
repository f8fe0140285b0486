/-
This file says how far rounding can take a positive number. The mantissa is cut off and then goes up
by one at most, and what comes of it is canonical; so rounding never falls below a canonical double
that the number had reached. Numbers are compared by how many of the least positive double they are
made of, which is a natural number for every exponent that doubles have.
-/

import ReleasePlayer.Proofs.Double.Packing

namespace ReleasePlayer.Double

open Float.Model Float.Model.UnpackedFloat

/-! ### Cutting off and going up -/

theorem mantissa_shiftRight (mantissa : ExtendedMantissa) (count : Nat) :
    (mantissa >>> count).mantissa = mantissa.mantissa / 2 ^ count := by
  show (count.repeat ExtendedMantissa.shiftRightOne mantissa).mantissa = _
  induction count with
  | zero => exact (Nat.div_one _).symm
  | succ count inductionHypothesis =>
    show (count.repeat ExtendedMantissa.shiftRightOne mantissa).mantissa / 2 = _
    rw [inductionHypothesis, Nat.div_div_eq_div_mul, Nat.pow_succ]

theorem le_roundedMantissa (mantissa : ExtendedMantissa) :
    mantissa.mantissa ≤ mantissa.roundedMantissa := by
  obtain ⟨mantissa, roundBit, stickyBit⟩ := mantissa
  cases roundBit <;> cases stickyBit
  · exact Nat.le_refl mantissa
  · exact Nat.le_refl mantissa
  · exact Nat.le_add_right mantissa _
  · exact Nat.le_succ mantissa

theorem roundedMantissa_le (mantissa : ExtendedMantissa) :
    mantissa.roundedMantissa ≤ mantissa.mantissa + 1 := by
  obtain ⟨mantissa, roundBit, stickyBit⟩ := mantissa
  cases roundBit <;> cases stickyBit
  · exact Nat.le_succ mantissa
  · exact Nat.le_succ mantissa
  · exact Nat.add_le_add_left (Nat.le_of_lt_succ (Nat.mod_lt mantissa (by decide))) mantissa
  · exact Nat.le_refl _

/-! ### Counting in the least double -/

/-- How many of the least positive double a mantissa with an exponent is. -/
def units (mantissa : Nat) (exponent : Int) : Nat := mantissa * 2 ^ (exponent + 1074).toNat

/-- A full mantissa with a greater exponent is more than any mantissa with a smaller one. -/
theorem units_lt_of_exponent_lt {mantissa₁ mantissa₂ : Nat} {exponent₁ exponent₂ : Int}
    (first : Canonical mantissa₁ exponent₁) (second : Canonical mantissa₂ exponent₂)
    (less : exponent₁ < exponent₂) :
    units mantissa₁ exponent₁ < units mantissa₂ exponent₂ := by
  have least := first.least
  have full := second.full.resolve_right (by omega)
  have split : (exponent₂ + 1074).toNat =
      (exponent₂ - exponent₁ - 1).toNat + ((exponent₁ + 1074).toNat + 1) := by omega
  unfold units
  rw [split, Nat.pow_add, Nat.pow_succ]
  calc mantissa₁ * 2 ^ (exponent₁ + 1074).toNat
      < 2 ^ 53 * 2 ^ (exponent₁ + 1074).toNat :=
        Nat.mul_lt_mul_of_pos_right first.small (Nat.two_pow_pos _)
    _ = 2 ^ 52 * (1 * (2 ^ (exponent₁ + 1074).toNat * 2)) := by ring
    _ ≤ _ := Nat.mul_le_mul full (Nat.mul_le_mul_right _ Nat.one_le_two_pow)

/-- Canonical doubles are in the order of what they are made of. -/
theorem notPast_of_units_le {mantissa₁ mantissa₂ : Nat} {exponent₁ exponent₂ : Int}
    (first : Canonical mantissa₁ exponent₁) (second : Canonical mantissa₂ exponent₂)
    (le : units mantissa₁ exponent₁ ≤ units mantissa₂ exponent₂) :
    NotPast (1, exponent₁, mantissa₁) (1, exponent₂, mantissa₂) := by
  rcases lt_trichotomy exponent₁ exponent₂ with less | rfl | greater
  · exact Or.inr ⟨rfl, Or.inl less⟩
  · have mantissas := Nat.le_of_mul_le_mul_right le (Nat.two_pow_pos _)
    exact Or.inr ⟨rfl, Or.inr ⟨rfl, Int.ofNat_le.mpr mantissas⟩⟩
  · exact absurd (units_lt_of_exponent_lt second first greater) (Nat.not_lt_of_le le)

/-! ### The exponent of a number -/

theorem targetExponent_eq (mantissa : Nat) (exponent : Int) :
    Format.binary64.targetExponent (totalExponent mantissa exponent) =
      max ((mantissa.log2 : Int) + exponent - 52) (-1074) := by
  show max ((mantissa.log2 : Int) + 1 + exponent - 53) (-1074) = _
  omega

/-- A canonical mantissa has the exponent that is made for it. -/
theorem targetExponent_of_canonical {mantissa : Nat} {exponent : Int}
    (canonical : Canonical mantissa exponent) (positive : 0 < mantissa) :
    Format.binary64.targetExponent (totalExponent mantissa exponent) = exponent := by
  have least := canonical.least
  have above := (Nat.log2_lt (Nat.ne_of_gt positive)).mpr canonical.small
  rw [targetExponent_eq]
  rcases canonical.full with full | rfl
  · have log := (Nat.le_log2 (Nat.ne_of_gt positive)).mpr full
    omega
  · omega

/-- A mantissa that is cut off to the exponent made for it is canonical. -/
theorem canonical_cut {mantissa : Nat} {exponent target : Int} (positive : 0 < mantissa)
    (least : -1074 ≤ exponent)
    (made : Format.binary64.targetExponent (totalExponent mantissa exponent) = target)
    (notAbove : exponent ≤ target) :
    Canonical (mantissa / 2 ^ (target - exponent).toNat) target ∧
      0 < mantissa / 2 ^ (target - exponent).toNat := by
  rw [targetExponent_eq] at made
  have low := Nat.log2_self_le (Nat.ne_of_gt positive)
  have high : mantissa < 2 ^ (mantissa.log2 + 1) := Nat.lt_log2_self
  by_cases normal : (mantissa.log2 : Int) + exponent - 52 ≥ -1074
  · have count : mantissa.log2 = 52 + (target - exponent).toNat := by omega
    have full : 2 ^ 52 ≤ mantissa / 2 ^ (target - exponent).toNat := by
      rw [Nat.le_div_iff_mul_le (Nat.two_pow_pos _), ← Nat.pow_add, ← count]
      exact low
    have small : mantissa / 2 ^ (target - exponent).toNat < 2 ^ 53 := by
      rw [Nat.div_lt_iff_lt_mul (Nat.two_pow_pos _), ← Nat.pow_add]
      rw [show 53 + (target - exponent).toNat = mantissa.log2 + 1 by omega]
      exact high
    exact ⟨⟨small, by omega, Or.inl full⟩, Nat.lt_of_lt_of_le (Nat.two_pow_pos _) full⟩
  · have none : (target - exponent).toNat = 0 := by omega
    rw [none, Nat.pow_zero, Nat.div_one]
    have small : mantissa < 2 ^ 53 :=
      Nat.lt_of_lt_of_le high (Nat.pow_le_pow_right (by decide) (by omega))
    exact ⟨⟨small, by omega, Or.inr (by omega)⟩, positive⟩

/-- Cutting a mantissa off does not take it below a canonical double that it had reached. -/
theorem units_le_cut {mantissa reached : Nat} {exponent target below : Int}
    (least : -1074 ≤ exponent) (notAbove : exponent ≤ target)
    (cut : Canonical (mantissa / 2 ^ (target - exponent).toNat) target)
    (canonical : Canonical reached below) (le : units reached below ≤ units mantissa exponent) :
    units reached below ≤ units (mantissa / 2 ^ (target - exponent).toNat) target := by
  rcases lt_or_ge below target with less | notLess
  · exact Nat.le_of_lt (units_lt_of_exponent_lt canonical cut less)
  · have above : (below + 1074).toNat = (below - target).toNat + (target - exponent).toNat +
        (exponent + 1074).toNat := by omega
    have whole : (below + 1074).toNat = (below - target).toNat + (target + 1074).toNat := by omega
    unfold units at le ⊢
    rw [above, Nat.pow_add, Nat.pow_add, ← Nat.mul_assoc, ← Nat.mul_assoc] at le
    have counted : reached * 2 ^ (below - target).toNat ≤
        mantissa / 2 ^ (target - exponent).toNat :=
      (Nat.le_div_iff_mul_le (Nat.two_pow_pos _)).mpr
        (Nat.le_of_mul_le_mul_right le (Nat.two_pow_pos _))
    rw [whole, Nat.pow_add, ← Nat.mul_assoc]
    exact Nat.mul_le_mul_right _ counted

/-! ### Rounding -/

/-- A positive double that a number rounds to: it is canonical, and not below any canonical double
that the number had reached. -/
def RoundsUp (mantissa : Nat) (exponent : Int) (rounded : UnpackedFloat) : Prop :=
  ∃ mantissa' exponent' positive, rounded = .finite .positive mantissa' exponent' positive ∧
    Canonical mantissa' exponent' ∧
    ∀ reached below, Canonical reached below →
      units reached below ≤ units mantissa exponent →
      units reached below ≤ units mantissa' exponent'

theorem shiftToTargetExponent_eq (mantissa : Nat) (exponent : Int) :
    shiftToTargetExponent Format.binary64 mantissa exponent .exact =
      ((⟨mantissa, false, false⟩ : ExtendedMantissa) >>>
          (Format.binary64.targetExponent (totalExponent mantissa exponent) - exponent).toNat,
        exponent +
          (Format.binary64.targetExponent (totalExponent mantissa exponent) - exponent).toNat) :=
  rfl

/-- The second shift of rounding: a canonical mantissa stays, and one that went up to the next power
of two becomes canonical again. -/
theorem shift_rounded {rounded : Nat} {exponent : Int} (positive : 0 < rounded)
    (form : Canonical rounded exponent ∨ rounded = 2 ^ 53 ∧ -1074 ≤ exponent) :
    ∃ mantissa exponent', 0 < mantissa ∧ Canonical mantissa exponent' ∧
      units mantissa exponent' = units rounded exponent ∧
      (shiftToTargetExponent Format.binary64 rounded exponent .exact).1.mantissa = mantissa ∧
      (shiftToTargetExponent Format.binary64 rounded exponent .exact).2 = exponent' := by
  rw [shiftToTargetExponent_eq]
  dsimp only
  rw [mantissa_shiftRight]
  rcases form with canonical | ⟨rfl, least⟩
  · rw [targetExponent_of_canonical canonical positive, Int.sub_self]
    refine ⟨rounded, exponent, positive, canonical, rfl, Nat.div_one rounded, ?_⟩
    exact Int.add_zero exponent
  · have target : Format.binary64.targetExponent (totalExponent (2 ^ 53) exponent) =
        exponent + 1 := by
      rw [targetExponent_eq, Nat.log2_two_pow]
      omega
    have one : (exponent + 1 - exponent).toNat = 1 := by omega
    rw [target, one]
    refine ⟨2 ^ 52, exponent + 1, by decide, ⟨by decide, by omega, Or.inl (by decide)⟩, ?_, rfl,
      rfl⟩
    unfold units
    rw [show (exponent + 1 + 1074).toNat = (exponent + 1074).toNat + 1 by omega]
    ring

/-- A mantissa that is cut off and rounded is canonical, or it went up to the next power of two. -/
theorem rounded_form {mantissa : ExtendedMantissa} {exponent : Int}
    (cut : Canonical mantissa.mantissa exponent) :
    Canonical mantissa.roundedMantissa exponent ∨
      mantissa.roundedMantissa = 2 ^ 53 ∧ -1074 ≤ exponent := by
  have low := le_roundedMantissa mantissa
  have high := roundedMantissa_le mantissa
  have small := cut.small
  by_cases carried : mantissa.roundedMantissa = 2 ^ 53
  · exact Or.inr ⟨carried, cut.least⟩
  · exact Or.inl ⟨by omega, cut.least, cut.full.imp_left fun full => Nat.le_trans full low⟩

theorem roundsUp_roundWithAccuracy {mantissa : Nat} (exponent : Int) (positive : 0 < mantissa)
    (least : -1074 ≤ exponent)
    (notAbove : exponent ≤ Format.binary64.targetExponent (totalExponent mantissa exponent)) :
    RoundsUp mantissa exponent
      (roundWithAccuracy Format.binary64 .positive mantissa exponent .exact) := by
  unfold roundWithAccuracy
  rw [shiftToTargetExponent_eq]
  generalize made : Format.binary64.targetExponent (totalExponent mantissa exponent) = target at *
  obtain ⟨canonical, nonzero⟩ := canonical_cut positive least made notAbove
  have reach : exponent + ((target - exponent).toNat : Int) = target := by omega
  dsimp only
  rw [reach]
  have shifted := mantissa_shiftRight ⟨mantissa, false, false⟩ (target - exponent).toNat
  generalize (⟨mantissa, false, false⟩ : ExtendedMantissa) >>> (target - exponent).toNat = cut at *
  have notLess := le_roundedMantissa cut
  rw [← shifted] at canonical nonzero
  obtain ⟨mantissa', exponent', positive', canonical', same, mantissaEq, exponentEq⟩ :=
    shift_rounded (Nat.lt_of_lt_of_le nonzero notLess) (rounded_form canonical)
  generalize shiftToTargetExponent Format.binary64 cut.roundedMantissa target .exact = again at *
  obtain ⟨last, _⟩ := again
  subst mantissaEq exponentEq
  dsimp only
  rw [dif_neg (Nat.ne_of_gt positive')]
  refine ⟨_, _, _, rfl, canonical', fun reached below form le => ?_⟩
  have cutForm := canonical
  rw [shifted] at cutForm
  have kept := units_le_cut least notAbove cutForm form le
  rw [← shifted] at kept
  rw [same]
  exact Nat.le_trans kept (Nat.mul_le_mul_right _ notLess)

theorem log2_shiftLeft {mantissa : Nat} (positive : 0 < mantissa) (count : Nat) :
    (mantissa <<< count).log2 = mantissa.log2 + count := by
  have low := Nat.log2_self_le (Nat.ne_of_gt positive)
  have high : mantissa < 2 ^ (mantissa.log2 + 1) := Nat.lt_log2_self
  rw [Nat.shiftLeft_eq]
  refine (Nat.log2_eq_iff (Nat.ne_of_gt (Nat.mul_pos positive (Nat.two_pow_pos _)))).mpr ⟨?_, ?_⟩
  · rw [Nat.pow_add]
    exact Nat.mul_le_mul_right _ low
  · rw [Nat.add_right_comm, Nat.pow_add]
    exact Nat.mul_lt_mul_of_pos_right high (Nat.two_pow_pos _)

/-- Rounding writes a number with more digits first, if it has too few, and then cuts them off. -/
theorem roundsUp_round {mantissa : Nat} {exponent : Int} (positive : 0 < mantissa)
    (least : -1074 ≤ exponent) :
    RoundsUp mantissa exponent (round Format.binary64 .positive mantissa exponent) := by
  unfold UnpackedFloat.round decreaseExponent
  dsimp only
  have made := targetExponent_eq mantissa exponent
  generalize Format.binary64.targetExponent (totalExponent mantissa exponent) = target at *
  generalize counted : (exponent - target).toNat = count
  have written : units (mantissa <<< count) (exponent - count) = units mantissa exponent := by
    unfold units
    rw [Nat.shiftLeft_eq, Nat.mul_assoc, ← Nat.pow_add]
    rw [show count + (exponent - count + 1074).toNat = (exponent + 1074).toNat by omega]
  have more : 0 < mantissa <<< count := by
    rw [Nat.shiftLeft_eq]
    exact Nat.mul_pos positive (Nat.two_pow_pos _)
  have rounded := roundsUp_roundWithAccuracy (exponent - count) more (by omega) (by
    rw [targetExponent_eq, log2_shiftLeft positive]
    omega)
  unfold RoundsUp at rounded ⊢
  rw [written] at rounded
  exact rounded

end ReleasePlayer.Double
