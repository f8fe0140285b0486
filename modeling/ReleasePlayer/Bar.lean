/-
This file says which fraction of a bar a pointer is at. Bars are rectangles on the page; beyond an
end of a bar the pointer is at that end.
-/

import ReleasePlayer.Config

namespace ReleasePlayer

/-- The rectangle of a bar. -/
structure Bar (α : Type) where
  left : α
  top : α
  width : α
  height : α
deriving DecidableEq, Repr

namespace Bar

variable {α : Type} [Scalar α]

/-- A bar without extent at the origin. -/
def zero : Bar α := ⟨0.0, 0.0, 0.0, 0.0⟩

/-- The fraction across a bar, from its left. -/
def across (bar : Bar α) (x : α) : α := Scalar.clampUnit ((x - bar.left) / bar.width)

/-- The fraction up a bar, from its bottom. -/
def up (bar : Bar α) (y : α) : α := 1.0 - Scalar.clampUnit ((y - bar.top) / bar.height)

/-- The fraction along the direction in which a bar fills. -/
def along (bar : Bar α) (axis : BarAxis) (x y : α) : α :=
  match axis with
  | .vertical => bar.up y
  | .horizontal => bar.across x

end Bar

end ReleasePlayer
