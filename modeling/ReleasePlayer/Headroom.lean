/-
This file says how loud an output can get. The listener's range of volumes ends at full volume on a
plain output and goes on to one and a half on an amplified one, where full volume is easy to miss:
a volume picked close to it is taken for it.
-/

import ReleasePlayer.Scalar

namespace ReleasePlayer

/-- Whether an output can play louder than the recording. -/
inductive Headroom where
  | unity
  | amplified
deriving DecidableEq, Repr

namespace Headroom

variable {α : Type} [Scalar α]

/-- The name of a headroom. -/
def name : Headroom → String
  | unity => "unity"
  | amplified => "amplified"

/-- The headroom with or without an amplifier. -/
def detect (hasAmplifier : Bool) : Headroom := if hasAmplifier then amplified else unity

def allowsBoost (headroom : Headroom) : Bool := headroom == amplified

/-- The loudest volume on an amplified output. -/
def amplifiedMax : α := 1.5

/-- How close to full volume a volume has to be picked to be taken for it. -/
def snapReach : α := 0.05

/-- The loudest volume that a listener can pick. -/
def maxVolume : Headroom → α
  | unity => 1.0
  | amplified => amplifiedMax

/-- Keeps a volume within the listener's range. -/
def clampVolume (headroom : Headroom) (volume : α) : α :=
  Scalar.clamp 0.0 headroom.maxVolume volume

/-- Keeps a gain within what the output can do. An amplified output has no upper end. -/
def clampOutput (headroom : Headroom) (gain : α) : α :=
  match headroom with
  | unity => Scalar.clamp 0.0 1.0 gain
  | amplified => Scalar.atLeastZero gain

/-- Takes a volume close to full volume for full volume, if the range goes on beyond it. -/
def snap (headroom : Headroom) (volume : α) : α :=
  if headroom.allowsBoost ∧ Scalar.distance volume 1.0 < snapReach then 1.0 else volume

end Headroom

end ReleasePlayer
