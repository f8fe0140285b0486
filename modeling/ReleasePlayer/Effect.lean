/-
This file holds what goes in and out of the player: notifications from the transport come in, and
effects on the page go out. It also holds the state that the page can ask for. Handlers only queue
effects, so that all of the player can be run without a page.
-/

import ReleasePlayer.Volume
import ReleasePlayer.Stream
import ReleasePlayer.TimeLabel
import ReleasePlayer.Bar

namespace ReleasePlayer

/-- What the transport tells. -/
inductive Notification where
  /-- The position moved. -/
  | timeUpdate
  /-- More of the stream was fetched. -/
  | progress
  /-- The stream can start to play. -/
  | canPlay
  | play
  | pause
  /-- The stream failed. -/
  | error (message : String)
deriving DecidableEq, Repr

/-- A button on the page that starts and pauses the stream. -/
inductive Control where
  /-- The one of the player. -/
  | global
  /-- The one in the row of a track. -/
  | track (slug : String)
deriving DecidableEq, Repr

/-- What such a button shows. -/
inductive ControlClass where
  | loading
  | play
  | pause
deriving DecidableEq, Repr

namespace ControlClass

/-- The class of the element. -/
def name : ControlClass → String
  | loading => "loading"
  | play => "play"
  | pause => "pause"

def all : List ControlClass := [loading, play, pause]

end ControlClass

/-- How long a button is in transition from one class to another, in milliseconds. -/
def swapDelay : Nat := 200

/-- What the page has to do. -/
inductive Effect (α : Type) where
  /-- Take a button from one class to another, if it has the first. -/
  | swapClass (control : Control) (before after : ControlClass)
  | setTitle (title : String)
  | hideTitle
  | setTime (elapsed total : String)
  | setSeekPosition (fraction : α)
  | setBuffered (fraction : α)
  | setSkipState (flags : SkipFlags)
  | hideSkipButtons
  | setVolume (level : VolumeLevel) (title : String) (fill : α)
  | setReplaygain (enabled : Bool)
  | setVolumeDropOpen (isOpen : Bool)
  | setLyricsOpen (slug : String) (isOpen : Bool)
  | setTrackDuration (slug label : String)
  /-- Show that nothing can be played. -/
  | unavailable (reason : String)
deriving DecidableEq, Repr

/-- What the page can ask the player for. -/
structure Snapshot (α : Type) where
  currentTrackIndex : Nat
  status : Status
  position : α
  volume : α
  maxVolume : α
  replaygainEnabled : Bool
  /-- The name of the format that streams. -/
  format : Option String
deriving DecidableEq, Repr

end ReleasePlayer
