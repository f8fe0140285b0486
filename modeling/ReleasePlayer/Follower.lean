/-
This file follows the stream through the tracks. The current track is the one to which the last
position belonged that belonged to any. When it changes, the lyrics go along: an open panel on the
track left is closed, and the panel on the track reached is opened; a track without a panel keeps
the wish for the next one.
-/

import ReleasePlayer.TrackTable
import ReleasePlayer.Log

namespace ReleasePlayer

/-- A change from one track to another. -/
structure TrackChange where
  previous : Nat
  current : Nat
  /-- The track whose lyrics are closed. -/
  closeLyrics : Option Nat
  /-- The track whose lyrics are opened. -/
  openLyrics : Option Nat
deriving DecidableEq, Repr

structure Follower where
  current : Nat
  /-- The lyrics panel of each track: whether it is open, if there is one. -/
  lyrics : List (Option Bool)
  /-- Whether the next panel is to be opened though the track left had none. -/
  wantsLyrics : Bool
deriving DecidableEq, Repr

namespace Follower

/-- On the first of so many tracks, none of them with lyrics. -/
def start (count : Nat) : Follower := ⟨0, List.replicate count none, false⟩

/-- The panel of a track, if there is one. -/
def panel? (follower : Follower) (index : Nat) : Option Bool := (follower.lyrics[index]?).join

/-- Whether a track has an open panel. -/
def isOpen (follower : Follower) (index : Nat) : Bool := follower.panel? index == some true

/-- Notes that a track has a panel. -/
def register (follower : Follower) (index : Nat) (isOpen : Bool) : Follower :=
  { follower with lyrics := follower.lyrics.set index (some isOpen) }

/-- Notes that the panel of a track was opened or closed. -/
def setOpen (follower : Follower) (index : Nat) (isOpen : Bool) : Follower :=
  match follower.panel? index with
  | some _ => follower.register index isOpen
  | none => follower

/-- Leaves the current track: closes its panel, and says whether the next one is to be opened. -/
def leave (follower : Follower) : Follower × Bool :=
  match follower.panel? follower.current with
  | some true => (follower.register follower.current false, true)
  | some false => ({ follower with wantsLyrics := false }, false)
  | none => (follower, follower.wantsLyrics)

/-- Reaches a track, whose panel is opened if that is wanted. -/
def reach (follower : Follower) (index : Nat) (wanted : Bool) : Follower :=
  let reached := { follower with current := index }
  if wanted then
    match reached.panel? index with
    | some _ => reached.register index true
    | none => { reached with wantsLyrics := true }
  else reached

/-- Goes from the current track to another. -/
def moveTo (follower : Follower) (index : Nat) : Follower × TrackChange :=
  let previous := follower.current
  let (left, wanted) := follower.leave
  let reached := left.reach index wanted
  (reached,
    { previous, current := index
      closeLyrics := if follower.isOpen previous then some previous else none
      openLyrics := if wanted && (left.panel? index).isSome then some index else none })

/-- Takes note of a position. One that belongs to no track changes nothing. -/
def observe {α : Type} [Scalar α] (follower : Follower) (table : TrackTable α) (time : α) :
    Follower × Option TrackChange :=
  match table.trackAt? time with
  | none => (follower, none)
  | some track =>
    if track.index = follower.current then (follower, none)
    else
      let (moved, change) := follower.moveTo track.index
      (moved, some change)

/-- What is told of a change. -/
def changeLog {α : Type} [Scalar α] (change : TrackChange) (time : α) : Log.Entry :=
  Log.debug ("Track " ++ toString change.previous ++ " -> " ++ toString change.current ++ " at " ++
    Scalar.hundredths time ++ "s")

end Follower

end ReleasePlayer
