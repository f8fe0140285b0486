/-
This file describes a player in one line, for whoever looks for a mistake.
-/

import ReleasePlayer.Decimal.Layout
import ReleasePlayer.Player
import ReleasePlayer.Scalar.Double
import ReleasePlayer.Text.Quoted

namespace ReleasePlayer

namespace Description

/-- A value that may be missing. -/
def optional {β : Type} (describe : β → String) : Option β → String
  | none => "None"
  | some value => "Some(" ++ describe value ++ ")"

/-- A record with its fields. -/
def record (name : String) (fields : List (String × String)) : String :=
  name ++ " \x7b " ++ ", ".intercalate (fields.map fun field => field.1 ++ ": " ++ field.2) ++
    " \x7d"

end Description

open Description

def Status.describe : Status → String
  | playing => "Playing"
  | paused => "Paused"

def Snapshot.describe (snapshot : Snapshot Float) : String :=
  record "PlayerState" [
    ("current_track_index", toString snapshot.currentTrackIndex),
    ("status", snapshot.status.describe),
    ("position", Double.literal snapshot.position),
    ("volume", Double.literal snapshot.volume),
    ("max_volume", Double.literal snapshot.maxVolume),
    ("replaygain_enabled", if snapshot.replaygainEnabled then "true" else "false"),
    ("format", optional Text.quoted snapshot.format)]

def Bar.describe (bar : Bar Float) : String :=
  record "BarRect" [
    ("left", Double.literal bar.left),
    ("top", Double.literal bar.top),
    ("width", Double.literal bar.width),
    ("height", Double.literal bar.height)]

def Drag.describe : Drag Float → String
  | seek bar => "Seek(" ++ bar.describe ++ ")"
  | volume bar => "Volume(" ++ bar.describe ++ ")"

/-- A player with what matters most of it. -/
def Player.describe {T G S F : Type} [Transport Float T] [GainStage Float G]
    (player : Player Float T G S F) : String :=
  "GaplessPlayer \x7b tracks: " ++ toString player.table.size ++ ", state: " ++
    player.snapshot.describe ++ ", drag: " ++ optional Drag.describe player.drag ++ ", .. \x7d"

end ReleasePlayer
