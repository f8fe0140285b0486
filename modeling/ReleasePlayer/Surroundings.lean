/-
This file says what the player needs around it: a transport that plays one stream, an output with a
gain, a store for two preferences, and a source of display frames. The player is written against
these four classes; what stands behind them may be a page or plain memory.
-/

import ReleasePlayer.Error
import ReleasePlayer.Headroom
import ReleasePlayer.Log

namespace ReleasePlayer

/-- Something that plays one stream. All times are seconds into the stream. -/
class Transport (α : outParam Type) (T : Type) where
  setSource : T → String → T
  /-- Starts to fetch the source. -/
  load : T → T
  /-- Starts or goes on to play, unless that is refused. -/
  play : T → Except PlaybackError T
  pause : T → T × List Log.Entry
  isPaused : T → Bool
  position : T → α
  /-- Moves to a time; nothing if the bounds between which it could move are no bounds. -/
  moveTo : T → α → Option T
  /-- The length of the stream, once it is known. -/
  duration : T → Option α
  /-- The end of what was fetched last, if anything was. -/
  bufferedEnd : T → Option α

/-- An output with a gain. -/
class GainStage (α : outParam Type) (G : Type) where
  headroom : G → Headroom
  setGain : G → α → G
  gain : G → α

/-- A store that keeps texts under keys. -/
class PreferenceStore (S : Type) where
  read : S → String → Option String
  write : S → String → String → Except PlaybackError S

/-- A source of display frames, asked for one at a time. -/
class FrameSource (F : Type) where
  /-- Asks for a frame; it comes back with the number of the frame unless it is refused. -/
  request : F → Option Nat × F × List Log.Entry
  /-- Takes back a request. -/
  cancel : F → Nat → F

end ReleasePlayer
