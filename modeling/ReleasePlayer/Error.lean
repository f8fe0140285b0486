/-
This file holds what can go wrong while the player works, each with its wording.
-/

import ReleasePlayer.Url.Host

namespace ReleasePlayer

/-- A failure of the player. -/
inductive PlaybackError where
  | noSource
  /-- The clip in a format could not be played. -/
  | trialFailed (format reason : String)
  | transport (reason : String)
  | storage (reason : String)
  | unknownTrack (slug : String)
  | badUrl (fault : Url.Fault)
deriving DecidableEq, Repr

/-- The wording of a failure. -/
def PlaybackError.message : PlaybackError → String
  | noSource => "No source loaded"
  | trialFailed format reason => "Trial load of " ++ format ++ " failed: " ++ reason
  | transport reason => "Transport error: " ++ reason
  | storage reason => "Storage error: " ++ reason
  | unknownTrack slug => "Unknown track: " ++ slug
  | badUrl fault => "Invalid stream URL: " ++ fault.message

end ReleasePlayer
