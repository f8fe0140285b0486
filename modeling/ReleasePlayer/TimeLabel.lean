/-
This file writes times as labels, `m:ss` or `h:mm:ss`. A label has hours if the label beside it has
them, so that an elapsed time and its total look alike.
-/

import ReleasePlayer.TrackTable

namespace ReleasePlayer

/-- The whole seconds of a time, at most as many as fit into 64 bits. -/
def wholeSeconds {α : Type} [Scalar α] (time : α) : Nat := min (Scalar.wholePart time) (1 <<< 64 - 1)

/-- A number with at least two digits. -/
def twoDigits (value : Nat) : String := (if value < 10 then "0" else "") ++ toString value

/-- Writes whole seconds with or without hours. -/
def clockText (withHours : Bool) (seconds : Nat) : String :=
  if withHours then
    toString (seconds / 3600) ++ ":" ++ twoDigits (seconds / 60 % 60) ++ ":" ++
      twoDigits (seconds % 60)
  else toString (seconds / 60) ++ ":" ++ twoDigits (seconds % 60)

/-- The label of a time beside another one; without that, or beside zero, a time stands for
itself. -/
def timeLabel {α : Type} [Scalar α] (time : α) (beside : Option α) : String :=
  let seconds := wholeSeconds time
  let shape := ((beside.map wholeSeconds).filter (0 < ·)).getD seconds
  clockText (decide (3600 ≤ shape)) seconds

/-- What a row of the page shows of a track. -/
structure TrackRow where
  slug : String
  /-- The place of the track, counted from one. -/
  number : Nat
  title : String
  subtitle : String
  duration : String
deriving DecidableEq, Repr

/-- The rows of a table. -/
def TrackTable.rows {α : Type} [Scalar α] (table : TrackTable α) : List TrackRow :=
  table.toList.map fun track =>
    { slug := track.slug, number := track.index + 1, title := track.title,
      subtitle := track.subtitle, duration := timeLabel track.length none }

end ReleasePlayer
