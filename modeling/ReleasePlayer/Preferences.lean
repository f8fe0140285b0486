/-
This file keeps the two preferences of a listener: the volume as a decimal text, and whether albums
are evened out. What cannot be read counts as not there, and what cannot be written is only told.
-/

import ReleasePlayer.Surroundings
import ReleasePlayer.Text.Blank
import ReleasePlayer.Text.Quoted

namespace ReleasePlayer

/-- The preferences of a listener. -/
structure Preferences (α : Type) where
  volume : α
  replaygain : Bool
deriving DecidableEq, Repr

namespace Preferences

/-- The key of the volume. -/
def volumeKey : String := "volume"

/-- The key of the switch that evens albums out. -/
def replaygainKey : String := "replaygain"

variable {α S : Type} [Scalar α] [PreferenceStore S]

/-- The volume of a listener who never picked one. -/
def defaultVolume : α := 1.0

/-- The preferences of a listener who never picked any. -/
def initial : Preferences α := ⟨defaultVolume, true⟩

/-- The volume that a text says. It has to be finite, and a negative one means silence. -/
def volumeOf? (text : String) : Option α :=
  match Scalar.read (Text.trim text) with
  | some volume => if Scalar.isFinite volume then some (Scalar.atLeastZero volume) else none
  | none => none

/-- Reads the volume. -/
def loadVolume (store : S) : α × List Log.Entry :=
  match PreferenceStore.read store volumeKey with
  | none => (defaultVolume, [])
  | some text =>
    match volumeOf? text with
    | some volume => (volume, [])
    | none => (defaultVolume, [Log.warn ("Ignoring stored volume " ++ Text.quoted text)])

/-- Reads the switch, which is on unless it was switched off. -/
def loadReplaygain (store : S) : Bool :=
  PreferenceStore.read store replaygainKey != some "off"

/-- Reads both preferences. -/
def load (store : S) : Preferences α × List Log.Entry :=
  let (volume, log) := loadVolume store
  (⟨volume, loadReplaygain store⟩, log)

/-- Writes a text under a key; `failure` opens what is told if that fails. -/
def write (store : S) (key value failure : String) : S × List Log.Entry :=
  match PreferenceStore.write store key value with
  | .ok written => (written, [])
  | .error error => (store, [Log.warn (failure ++ error.message)])

/-- Writes the volume. -/
def storeVolume (store : S) (volume : α) : S × List Log.Entry :=
  write store volumeKey (Scalar.text volume) "Failed to persist volume: "

/-- The text of the switch. -/
def switchText (isOn : Bool) : String := if isOn then "on" else "off"

/-- Writes the switch. -/
def storeReplaygain (store : S) (isOn : Bool) : S × List Log.Entry :=
  write store replaygainKey (switchText isOn) "Failed to persist replaygain setting: "

end Preferences

end ReleasePlayer
