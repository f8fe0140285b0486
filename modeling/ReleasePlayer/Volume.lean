/-
This file holds the volume of a player. The listener picks a volume; the output gets a gain, which
is that volume times the factor of the album while albums are evened out. Only the gain is kept, and
the volume is what the gain amounts to without the factor.
-/

import ReleasePlayer.Compensation
import ReleasePlayer.Surroundings

namespace ReleasePlayer

/-! ### The icon of a volume -/

/-- What the icon shows. -/
inductive VolumeLevel where
  | muted
  | low
  | medium
  | high
  | danger
deriving DecidableEq, Repr

namespace VolumeLevel

/-- The class of the icon. -/
def name : VolumeLevel → String
  | muted => "muted"
  | low => "low"
  | medium => "medium"
  | high => "high"
  | danger => "danger"

def all : List VolumeLevel := [muted, low, medium, high, danger]

/-- The levels that a volume is not at. -/
def others (level : VolumeLevel) : List VolumeLevel := all.filter (· != level)

/-- The level of a volume. -/
def ofVolume {α : Type} [Scalar α] (volume : α) : VolumeLevel :=
  if volume < 0.01 then muted
  else if volume ≤ 1.0 / 3.0 then low
  else if volume ≤ 2.0 / 3.0 then medium
  else if (1.2 : α) < volume then danger
  else high

end VolumeLevel

/-! ### The volume of a player -/

structure VolumeControl (α G : Type) where
  output : G
  headroom : Headroom
  compensation : Compensation α
  replaygain : Bool
  /-- The volume to go back to from silence. -/
  beforeMute : α
deriving DecidableEq, Repr

namespace VolumeControl

variable {α G : Type} [Scalar α] [GainStage α G]

/-- The control of an output, with as much of the compensation as the output can do. -/
def start (output : G) (compensation : Compensation α) (replaygain : Bool) :
    VolumeControl α G × List Log.Entry :=
  let headroom := GainStage.headroom output
  ({ output, headroom, replaygain
     compensation := compensation.limitedTo headroom
     beforeMute := 0.0 },
    Log.debug ("Output headroom: " ++ headroom.name) :: compensation.limitLog headroom)

/-- The gain of the output. -/
def gain (control : VolumeControl α G) : α := GainStage.gain control.output

/-- The volume that the listener hears of. -/
def volume (control : VolumeControl α G) : α :=
  control.compensation.remove control.gain control.replaygain

/-- Gives the output a gain, as far as it can do that. -/
def setGain (control : VolumeControl α G) (gain : α) : VolumeControl α G :=
  { control with output := GainStage.setGain control.output (control.headroom.clampOutput gain) }

/-- The gain at which a volume is heard. -/
def gainFor (control : VolumeControl α G) (volume : α) : α :=
  control.compensation.apply (control.headroom.clampVolume volume) control.replaygain

/-- Sets the volume. -/
def setVolume (control : VolumeControl α G) (volume : α) : VolumeControl α G :=
  control.setGain (control.gainFor volume)

/-- The volume at a fraction of the volume bar. -/
def volumeAt (headroom : Headroom) (fraction : α) : α :=
  let within : α := if Scalar.isFinite fraction then Scalar.clamp 0.0 1.0 fraction else 0.0
  headroom.snap (within * headroom.maxVolume)

/-- Sets the volume to a fraction of the volume bar. -/
def setFraction (control : VolumeControl α G) (fraction : α) : VolumeControl α G :=
  control.setVolume (volumeAt control.headroom fraction)

/-- Switches evening out on or off and keeps the volume. -/
def toggleReplaygain (control : VolumeControl α G) : VolumeControl α G :=
  let factor := control.compensation.factor
  let gain := if control.replaygain then control.gain / factor else control.gain * factor
  { control with replaygain := !control.replaygain }.setGain gain

/-- Goes to silence, or from silence to the volume before it. -/
def toggleMute (control : VolumeControl α G) : VolumeControl α G :=
  if Scalar.same control.gain 0.0 then control.setVolume control.beforeMute
  else { control with beforeMute := control.volume }.setGain 0.0

/-! ### What the page shows of it -/

def maxVolume (control : VolumeControl α G) : α := control.headroom.maxVolume

def level (control : VolumeControl α G) : VolumeLevel := .ofVolume control.volume

/-- The volume in whole percent. A little is added first, so that a percentage that falls short by
rounding alone is not cut down by one. -/
def percent (control : VolumeControl α G) : α :=
  Scalar.atLeastZero (Scalar.floor (control.volume * 100.0 + 1e-9))

/-- The words at the volume button. -/
def title (control : VolumeControl α G) : String :=
  "Volume: " ++ Scalar.text control.percent ++ "%" ++
    (if control.replaygain then " (Normalized)" else "")

/-- How far the volume bar is filled. -/
def fill (control : VolumeControl α G) : α :=
  Scalar.clamp 0.0 1.0 (control.volume / control.maxVolume)

end VolumeControl

end ReleasePlayer
