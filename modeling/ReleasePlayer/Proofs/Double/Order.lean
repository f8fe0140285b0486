/-
This file gives the order of doubles a form that arithmetic on integers decides. Every double that is
defined has a place: whether it is infinite, finite or zero on either side, and then its exponent and
its mantissa. Comparing doubles is comparing their places one part after the other, so the order is
transitive and total on them, and an undefined double is in order with nothing.
-/

import ReleasePlayer.Scalar.Double

namespace ReleasePlayer.Double

open Float.Model Float.Model.UnpackedFloat

/-! ### Places -/

/-- The place of a double in the order, unless it is undefined. -/
def place? : UnpackedFloat → Option (Int × Int × Int)
  | .notANumber => none
  | .infinity .negative => some (-2, 0, 0)
  | .finite .negative mantissa exponent _ => some (-1, -exponent, -mantissa)
  | .zero _ => some (0, 0, 0)
  | .finite .positive mantissa exponent _ => some (1, exponent, mantissa)
  | .infinity .positive => some (2, 0, 0)

/-- Whether a place is not past another: the first part that differs decides. -/
def NotPast (first second : Int × Int × Int) : Prop :=
  first.1 < second.1 ∨ first.1 = second.1 ∧
    (first.2.1 < second.2.1 ∨ first.2.1 = second.2.1 ∧ first.2.2 ≤ second.2.2)

theorem notPast_refl (place : Int × Int × Int) : NotPast place place := by
  unfold NotPast
  omega

theorem notPast_trans {first second third : Int × Int × Int} (earlier : NotPast first second)
    (later : NotPast second third) : NotPast first third := by
  unfold NotPast at *
  omega

theorem notPast_total (first second : Int × Int × Int) :
    NotPast first second ∨ NotPast second first := by
  unfold NotPast
  omega

/-! ### Comparing doubles -/

theorem isLE_then_iff (e₁ e₂ : Int) (m₁ m₂ : Nat) :
    ((compare e₁ e₂).then (compare m₁ m₂)).isLE = true ↔ e₁ < e₂ ∨ e₁ = e₂ ∧ m₁ ≤ m₂ := by
  rw [Int.compare_eq_ite_lt, Nat.compare_eq_ite_lt]
  split
  · simp [Ordering.then, *]
  · split
    · simp [Ordering.then]
      omega
    · split
      · simp [Ordering.then]
        omega
      · split <;> simp [Ordering.then] <;> omega

theorem isGE_then_iff (e₁ e₂ : Int) (m₁ m₂ : Nat) :
    ((compare e₁ e₂).then (compare m₁ m₂)).isGE = true ↔ e₂ < e₁ ∨ e₁ = e₂ ∧ m₂ ≤ m₁ := by
  have swapped := isLE_then_iff e₂ e₁ m₂ m₁
  rw [← Ordering.isGE_swap, Ordering.swap_then, Int.compare_swap, Nat.compare_swap] at swapped
  rw [swapped, eq_comm]

theorem le_iff (x y : UnpackedFloat) :
    x.le y = true ↔ ∃ first second, place? x = some first ∧ place? y = some second ∧
      NotPast first second := by
  rcases x with (_ | _) | _ | _ | ⟨_ | _, m₁, e₁, _⟩ <;>
    rcases y with (_ | _) | _ | _ | ⟨_ | _, m₂, e₂, _⟩ <;>
    dsimp only [UnpackedFloat.le, UnpackedFloat.compare, place?] <;>
    simp [NotPast, isLE_then_iff, isGE_then_iff] <;>
    rfl

theorem compare_swap (x y : UnpackedFloat) : y.compare x = (x.compare y).map Ordering.swap := by
  rcases x with (_ | _) | _ | _ | ⟨_ | _, m₁, e₁, _⟩ <;>
    rcases y with (_ | _) | _ | _ | ⟨_ | _, m₂, e₂, _⟩ <;>
    dsimp only [UnpackedFloat.compare] <;>
    simp [Ordering.swap_then, Int.compare_swap, Nat.compare_swap] <;>
    rfl

/-- One double is less than another just if they are in order one way and not the other. -/
theorem lt_iff (x y : UnpackedFloat) : x.lt y = true ↔ x.le y = true ∧ ¬ y.le x = true := by
  unfold UnpackedFloat.lt UnpackedFloat.le
  rw [compare_swap x y]
  rcases x.compare y with _ | _ | _ | _ <;> simp

/-! ### The order of doubles -/

/-- The place of a double. -/
def placeOf? (x : Float) : Option (Int × Int × Int) := place? x.toModel.unpack

theorem float_le_iff {x y : Float} :
    x ≤ y ↔ ∃ first second, placeOf? x = some first ∧ placeOf? y = some second ∧
      NotPast first second := by
  rw [placeOf?, placeOf?, ← le_iff]
  show decide (x.toModel ≤ y.toModel) = true ↔ _
  rw [decide_eq_true_iff]
  rfl

theorem float_lt_iff {x y : Float} : x < y ↔ x ≤ y ∧ ¬ y ≤ x := by
  show decide (x.toModel < y.toModel) = true ↔
    decide (x.toModel ≤ y.toModel) = true ∧ ¬ decide (y.toModel ≤ x.toModel) = true
  rw [decide_eq_true_iff, decide_eq_true_iff, decide_eq_true_iff]
  exact lt_iff x.toModel.unpack y.toModel.unpack

/-- A double that has a place can be compared with itself. -/
theorem float_refl_iff {x : Float} : x ≤ x ↔ ∃ place, placeOf? x = some place := by
  rw [float_le_iff]
  constructor
  · rintro ⟨first, -, found, -⟩
    exact ⟨first, found⟩
  · rintro ⟨place, found⟩
    exact ⟨place, place, found, found, notPast_refl place⟩

theorem float_le_trans {x y z : Float} (earlier : x ≤ y) (later : y ≤ z) : x ≤ z := by
  obtain ⟨first, second, firstPlace, secondPlace, notPast⟩ := float_le_iff.mp earlier
  obtain ⟨second', third, secondPlace', thirdPlace, notPast'⟩ := float_le_iff.mp later
  obtain rfl := Option.some.inj (secondPlace.symm.trans secondPlace')
  exact float_le_iff.mpr ⟨first, third, firstPlace, thirdPlace, notPast_trans notPast notPast'⟩

theorem float_le_total {x y : Float} (left : x ≤ x) (right : y ≤ y) : x ≤ y ∨ y ≤ x := by
  obtain ⟨first, firstPlace⟩ := float_refl_iff.mp left
  obtain ⟨second, secondPlace⟩ := float_refl_iff.mp right
  rcases notPast_total first second with notPast | notPast
  · exact Or.inl (float_le_iff.mpr ⟨first, second, firstPlace, secondPlace, notPast⟩)
  · exact Or.inr (float_le_iff.mpr ⟨second, first, secondPlace, firstPlace, notPast⟩)

/-- A double is finite just if its place is strictly between those of the infinite ones. -/
theorem isFinite_iff {x : Float} :
    x.isFinite = true ↔ ∃ place, placeOf? x = some place ∧ -2 < place.1 ∧ place.1 < 2 := by
  show x.toModel.unpack.isFinite = true ↔ ∃ place, place? x.toModel.unpack = some place ∧ _
  rcases x.toModel.unpack with (_ | _) | _ | _ | ⟨_ | _, m, e, _⟩ <;>
    dsimp only [UnpackedFloat.isFinite, place?] <;>
    simp

theorem isFinite_between {x y z : Float} (left : x.isFinite = true) (right : z.isFinite = true)
    (above : x ≤ y) (below : y ≤ z) : y.isFinite = true := by
  obtain ⟨first, firstPlace, low, -⟩ := isFinite_iff.mp left
  obtain ⟨third, thirdPlace, -, high⟩ := isFinite_iff.mp right
  obtain ⟨first', second, firstPlace', secondPlace, notPast⟩ := float_le_iff.mp above
  obtain ⟨second', third', secondPlace', thirdPlace', notPast'⟩ := float_le_iff.mp below
  obtain rfl := Option.some.inj (firstPlace.symm.trans firstPlace')
  obtain rfl := Option.some.inj (secondPlace.symm.trans secondPlace')
  obtain rfl := Option.some.inj (thirdPlace.symm.trans thirdPlace')
  refine isFinite_iff.mpr ⟨second, secondPlace, ?_, ?_⟩ <;> unfold NotPast at * <;> omega

end ReleasePlayer.Double
