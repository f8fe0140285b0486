/-
This file says how far numbers can be reasoned about that need not be exact. The order of doubles is
transitive, and it compares any two values except those that compare with nothing; rounding may lose
digits, but it never takes a sum below what it was added to, nor a product or a difference below
zero where the exact one is not. Everything that is proved from these laws alone holds of doubles and
of exact fields alike.
-/

import ReleasePlayer.Proofs.Scalar.Exact

namespace ReleasePlayer

namespace Scalar

/-- Numbers that are in order as far as they can be compared at all. A number is at most itself just
if it can be compared. -/
class Ordered (α : Type) [Scalar α] : Prop where
  le_trans {a b c : α} : a ≤ b → b ≤ c → a ≤ c
  lt_iff {a b : α} : a < b ↔ a ≤ b ∧ ¬ b ≤ a
  le_total {a b : α} : a ≤ a → b ≤ b → a ≤ b ∨ b ≤ a
  refl_left {a b : α} : a ≤ b → a ≤ a
  refl_right {a b : α} : a ≤ b → b ≤ b
  refl_of_isFinite {a : α} : isFinite a = true → a ≤ a
  isFinite_between {a b c : α} : isFinite a = true → isFinite c = true → a ≤ b → b ≤ c →
    isFinite b = true
  zero_le_one : (0.0 : α) ≤ 1.0

/-- Numbers whose arithmetic may round, but not past zero or past what is added to. -/
class Rounded (α : Type) [Scalar α] : Prop extends Ordered α where
  sub_nonneg {a b : α} : isFinite b = true → (0.0 : α) ≤ a → a ≤ b → (0.0 : α) ≤ b - a
  mul_nonneg {a b : α} : (0.0 : α) ≤ a → (0.0 : α) ≤ b → a * b ≤ a * b → (0.0 : α) ≤ a * b
  le_add {a b : α} : isFinite a = true → (0.0 : α) ≤ a → (0.0 : α) ≤ b → a ≤ a + b
  refl_of_add {a b : α} : a + b ≤ a + b → b ≤ b

/-! ### What follows for the order -/

section Ordered

variable {α : Type} [Scalar α] [Ordered α] {a b c : α}

omit [Ordered α] in
theorem same_iff : same a b = true ↔ a ≤ b ∧ b ≤ a := by
  unfold same
  rw [Bool.and_eq_true, decide_eq_true_iff, decide_eq_true_iff]

theorem le_of_lt (less : a < b) : a ≤ b := (Ordered.lt_iff.mp less).1

theorem not_lt_of_le (le : a ≤ b) : ¬ b < a := fun less => (Ordered.lt_iff.mp less).2 le

/-- Of two numbers that can be compared, one that is not less is at least as great. -/
theorem le_of_not_lt (left : a ≤ a) (right : b ≤ b) (notLess : ¬ a < b) : b ≤ a := by
  rcases Ordered.le_total left right with le | le
  · by_cases back : b ≤ a
    · exact back
    · exact absurd (Ordered.lt_iff.mpr ⟨le, back⟩) notLess
  · exact le

/-- A number within bounds is kept as it is. -/
theorem clamp_of_within (above : a ≤ b) (below : b ≤ c) : clamp a c b = b := by
  unfold clamp
  dsimp only
  rw [if_neg (not_lt_of_le above), if_neg (not_lt_of_le below)]

theorem clamp?_of_within (above : a ≤ b) (below : b ≤ c) : clamp? a c b = some b := by
  unfold clamp?
  rw [if_pos (Ordered.le_trans above below), clamp_of_within above below]

omit [Ordered α] in
theorem atLeastZero_of_nonneg (nonneg : (0.0 : α) ≤ a) : atLeastZero a = a := if_pos nonneg

/-- What comes of keeping a number within bounds is at least the lower one. -/
theorem le_clamp (bounds : a ≤ c) (ordinary : b ≤ b) : a ≤ clamp a c b := by
  have lower := Ordered.refl_left bounds
  unfold clamp
  dsimp only
  split
  · split
    · exact bounds
    · exact lower
  · rename_i notBelow
    split
    · exact bounds
    · exact le_of_not_lt ordinary lower notBelow

theorem clamp_le (bounds : a ≤ c) (ordinary : b ≤ b) : clamp a c b ≤ c := by
  have upper := Ordered.refl_right bounds
  unfold clamp
  dsimp only
  split
  · split
    · exact upper
    · exact bounds
  · split
    · exact upper
    · rename_i notAbove
      exact le_of_not_lt upper ordinary notAbove

/-- What comes of keeping a number below an upper bound is not above the number. -/
theorem clamp_le_self (above : a ≤ b) : clamp a c b ≤ b := by
  unfold clamp
  dsimp only
  rw [if_neg (not_lt_of_le above)]
  split
  · rename_i less
    exact le_of_lt less
  · exact Ordered.refl_right above

theorem clampUnit_nonneg (x : α) : (0.0 : α) ≤ clampUnit x := by
  unfold clampUnit
  split
  · rename_i ordinary
    exact le_clamp Ordered.zero_le_one ordinary
  · exact Ordered.refl_left Ordered.zero_le_one

end Ordered

end Scalar

/-! ### Exact fields -/

namespace Exact

variable {K : Type} [Exact K]

instance : Scalar.Rounded K where
  le_trans := le_trans
  lt_iff := lt_iff_le_not_ge
  le_total _ _ := le_total _ _
  refl_left _ := le_rfl
  refl_right _ := le_rfl
  refl_of_isFinite _ := le_rfl
  isFinite_between _ _ _ _ := rfl
  zero_le_one := by rw [zero_literal, one_literal]; exact zero_le_one
  sub_nonneg _ _ le := by rw [zero_literal]; exact sub_nonneg.mpr le
  mul_nonneg left right _ := by
    rw [zero_literal] at left right ⊢
    exact mul_nonneg left right
  le_add _ _ nonneg := by
    rw [zero_literal] at nonneg
    exact le_add_of_nonneg_right nonneg
  refl_of_add _ := le_rfl

end Exact

end ReleasePlayer
