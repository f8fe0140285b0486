/-
This file evens out how loud albums are. An album is played with the gain that brings it from its
own loudness to a reference level; ten decibels are a factor of ten. The listener's volume and the
gain of the output differ by this factor and nothing else.
-/

import ReleasePlayer.Headroom
import ReleasePlayer.Log

namespace ReleasePlayer

/-! ### Levels in decibels -/

section Levels

variable {α : Type} [Scalar α]

/-- The level to which albums are brought. -/
def referenceLevel : α := 0.0 - 12.0

/-- The level of broadcasts. -/
def broadcastLevel : α := 0.0 - 23.0

/-- The level of tagged music files. -/
def taggedLevel : α := 0.0 - 18.0

/-- The level of streaming services. -/
def streamingLevel : α := 0.0 - 14.0

/-- How far an album is below the reference level. -/
def relativeLoudness (loudness : α) : α := referenceLevel - loudness

/-- The gain that a difference of levels amounts to. -/
def gainOf (decibels : α) : α := Scalar.tenTo (decibels / 10.0)

end Levels

/-! ### The compensation of an album -/

/-- Why a compensation is refused. -/
inductive LoudnessError (α : Type) where
  | loudness (value : α)
  | reference (value : α)
deriving DecidableEq, Repr

/-- The wording of a refusal. -/
def LoudnessError.message {α : Type} [Scalar α] : LoudnessError α → String
  | loudness value => "Album loudness is not a finite number: " ++ Scalar.text value
  | reference value => "Reference level is not a finite number: " ++ Scalar.text value

/-- The gain at which an album plays, and where it comes from. -/
structure Compensation (α : Type) where
  /-- The loudness of the album, if it was measured. -/
  loudness : Option α
  reference : α
  factor : α
deriving DecidableEq, Repr

namespace Compensation

variable {α : Type} [Scalar α]

/-- The compensation of an album without a measurement changes nothing. -/
def unmeasured : Compensation α := ⟨none, referenceLevel, 1.0⟩

/-- The compensation that brings an album to a reference level. -/
def toReference (loudness reference : α) : Except (LoudnessError α) (Compensation α) :=
  if !Scalar.isFinite loudness then .error (.loudness loudness)
  else if !Scalar.isFinite reference then .error (.reference reference)
  else .ok ⟨some loudness, reference, gainOf (reference - loudness)⟩

/-- The compensation of an album. -/
def ofLoudness (loudness : α) : Except (LoudnessError α) (Compensation α) :=
  toReference loudness referenceLevel

/-- The compensation in decibels. -/
def decibels (compensation : Compensation α) : α :=
  match compensation.loudness with
  | some loudness => compensation.reference - loudness
  | none => 0.0

/-- Whether a compensation asks for more than an output can do. -/
def exceeds (compensation : Compensation α) (headroom : Headroom) : Bool :=
  !headroom.allowsBoost && decide ((1.0 : α) < compensation.factor)

/-- A compensation without what the output cannot do. -/
def limitedTo (compensation : Compensation α) (headroom : Headroom) : Compensation α :=
  if compensation.exceeds headroom then { compensation with factor := 1.0 } else compensation

/-- What is told of limiting a compensation. -/
def limitLog (compensation : Compensation α) (headroom : Headroom) : List Log.Entry :=
  if compensation.exceeds headroom then
    [Log.warn ("Can't make audio louder than 100% without an amplification graph, " ++
      "ignoring gain of " ++ Scalar.hundredths compensation.decibels ++ " dB")]
  else []

/-- The gain for a volume. -/
def apply (compensation : Compensation α) (volume : α) (enabled : Bool) : α :=
  if enabled then volume * compensation.factor else volume

/-- The volume that has a gain. -/
def remove (compensation : Compensation α) (gain : α) (enabled : Bool) : α :=
  if enabled then gain / compensation.factor else gain

end Compensation

end ReleasePlayer
