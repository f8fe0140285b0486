/-
This file holds the tracks of a release: what a page tells about each, and the track it becomes in
its place of the release. Times are seconds into the one stream that carries the whole release. A
track covers the times from its start up to, but not including, its end.
-/

import ReleasePlayer.Scalar

namespace ReleasePlayer

/-- A track as the page describes it. -/
structure TrackEntry (α : Type) where
  slug : String
  title : String
  /-- The line below the title; it may be empty. -/
  subtitle : String
  starts : α
  ends : α
deriving DecidableEq, Repr

/-- A track in its place of the release, counted from zero. -/
structure Track (α : Type) extends TrackEntry α where
  index : Nat
deriving DecidableEq, Repr

namespace Track

variable {α : Type} [Scalar α]

/-- The length of a track. -/
def length (track : Track α) : α := track.ends - track.starts

/-- Whether a track covers a time. -/
def covers (track : Track α) (time : α) : Bool :=
  decide (track.starts ≤ time) && decide (time < track.ends)

/-- The time at a fraction of a track. -/
def timeAt (track : Track α) (fraction : α) : α :=
  track.starts + track.length * Scalar.clampUnit fraction

/-- The fraction of a track that lies before a time; nothing of a track without length does. -/
def fractionAt (track : Track α) (time : α) : α :=
  if (0.0 : α) < track.length then (time - track.starts) / track.length else 0.0

/-- The fraction of a track that is filled up to a time. -/
def filledAt (track : Track α) (time : α) : α := Scalar.clampUnit (track.fractionAt time)

end Track

/-- A format in which the server offers the stream: its name there, and the media type by which the
runtime is asked about it. -/
structure StreamFormat where
  name : String
  mime : String
deriving DecidableEq, Repr

end ReleasePlayer
