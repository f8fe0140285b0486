/-
This file says in exact arithmetic which fraction of a bar a pointer is at. It is the part of the bar
that the pointer has passed, so it goes along with the pointer and stands still beyond the ends.
-/

import Mathlib.Algebra.Order.Field.Basic
import ReleasePlayer.Bar
import ReleasePlayer.Proofs.Scalar.Exact

namespace ReleasePlayer

variable {K : Type} [Exact K]

/-! ### Parts of an extent -/

/-- The part of an extent that is passed at a place; beyond an end it is that end. -/
def passed (start extent place : K) : K := max 0 (min 1 ((place - start) / extent))

section Passed

variable {start extent place : K}

theorem passed_nonneg : 0 ≤ passed start extent place := le_max_left _ _

theorem passed_le_one : passed start extent place ≤ 1 := max_le zero_le_one (min_le_left _ _)

variable (positive : 0 < extent)
include positive

theorem passed_mono : Monotone (passed start extent) := by
  intro place further le
  have quotient : (place - start) / extent ≤ (further - start) / extent :=
    div_le_div_of_nonneg_right (sub_le_sub_right le start) positive.le
  exact max_le_max_left 0 (min_le_min_left 1 quotient)

theorem passed_of_le (before : place ≤ start) : passed start extent place = 0 := by
  have quotient : (place - start) / extent ≤ 0 :=
    div_nonpos_of_nonpos_of_nonneg (sub_nonpos.mpr before) positive.le
  exact max_eq_left ((min_le_right _ _).trans quotient)

theorem passed_of_ge (behind : start + extent ≤ place) : passed start extent place = 1 := by
  have quotient : 1 ≤ (place - start) / extent := by
    rw [one_le_div positive, le_sub_iff_add_le']
    exact behind
  unfold passed
  rw [min_eq_left quotient, max_eq_right zero_le_one]

end Passed

/-! ### Fractions of a bar -/

/-- The coordinate of the pointer along a bar. -/
def BarAxis.coordinate (axis : BarAxis) (x y : K) : K :=
  match axis with
  | .horizontal => x
  | .vertical => y

namespace Bar

/-- The fraction of a bar at a coordinate. A bar fills to the right, or upwards. -/
def fractionAt (bar : Bar K) (axis : BarAxis) (place : K) : K :=
  match axis with
  | .horizontal => passed bar.left bar.width place
  | .vertical => 1 - passed bar.top bar.height place

theorem across_eq (bar : Bar K) (x : K) : bar.across x = passed bar.left bar.width x :=
  Exact.clampUnit_eq _

theorem along_eq (bar : Bar K) (axis : BarAxis) (x y : K) :
    bar.along axis x y = bar.fractionAt axis (axis.coordinate x y) := by
  cases axis with
  | horizontal => exact bar.across_eq x
  | vertical =>
    show (1.0 : K) - Scalar.clampUnit ((y - bar.top) / bar.height) = _
    rw [Exact.one_literal, Exact.clampUnit_eq]
    rfl

theorem fractionAt_mem {bar : Bar K} {axis : BarAxis} {place : K} :
    bar.fractionAt axis place ∈ Set.Icc (0 : K) 1 := by
  cases axis with
  | horizontal => exact ⟨passed_nonneg, passed_le_one⟩
  | vertical => exact ⟨sub_nonneg.mpr passed_le_one, sub_le_self 1 passed_nonneg⟩

end Bar

end ReleasePlayer
