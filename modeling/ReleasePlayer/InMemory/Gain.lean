/-
This file holds a gain in memory: an output that does whatever it is set to.
-/

import ReleasePlayer.Surroundings

namespace ReleasePlayer.InMemory

structure Gain (α : Type) where
  headroom : Headroom
  gain : α
deriving DecidableEq, Repr

/-- An output at full volume. -/
def Gain.ofHeadroom {α : Type} [Scalar α] (headroom : Headroom) : Gain α := ⟨headroom, 1.0⟩

instance {α : Type} : GainStage α (Gain α) where
  headroom := Gain.headroom
  setGain stage gain := { stage with gain }
  gain := Gain.gain

end ReleasePlayer.InMemory
