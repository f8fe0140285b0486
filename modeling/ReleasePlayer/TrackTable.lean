/-
This file holds the table of tracks of a release. A table has at least one track; no track ends
before it starts, and none starts before the one ahead of it ends. Gaps between tracks are allowed,
so a time may belong to no track; the very end of the release belongs to the last one.
-/

import ReleasePlayer.Track

namespace ReleasePlayer

/-- Why a list of tracks is refused as a table. -/
inductive TableFault (α : Type) where
  | empty
  | notFinite (index : Nat)
  | inverted (index : Nat) (starts ends : α)
  | overlap (index : Nat) (starts ends : α)
deriving DecidableEq, Repr

/-- The wording of a fault. -/
def TableFault.message {α : Type} [Scalar α] : TableFault α → String
  | empty => "Track list is empty"
  | notFinite index => at_ index ++ "non-finite boundary"
  | inverted index starts ends =>
    at_ index ++ "ends at " ++ Scalar.text ends ++ " before it starts at " ++ Scalar.text starts
  | overlap index starts ends =>
    at_ index ++ "starts at " ++ Scalar.text starts ++ " before previous track ends at " ++
      Scalar.text ends
where
  at_ (index : Nat) : String := "Invalid track table at index " ++ toString index ++ ": "

/-- A table of tracks: the first one and the others after it. -/
structure TrackTable (α : Type) where
  first : Track α
  others : List (Track α)
deriving DecidableEq, Repr

namespace TrackTable

variable {α : Type} [Scalar α]

/-! ### Building a table -/

/-- Gives tracks their places, counted from `index`. -/
def place (index : Nat) : List (TrackEntry α) → List (Track α)
  | [] => []
  | entry :: more => ⟨entry, index⟩ :: place (index + 1) more

/-- What is wrong with the times of one track. -/
def ownFault? (track : Track α) : Option (TableFault α) :=
  if !Scalar.isFinite track.starts || !Scalar.isFinite track.ends then
    some (.notFinite track.index)
  else if track.ends < track.starts then some (.inverted track.index track.starts track.ends)
  else none

/-- The first overlap of two tracks in a row. -/
def overlap? (ahead : Track α) : List (Track α) → Option (TableFault α)
  | [] => none
  | track :: more =>
    if track.starts < ahead.ends then some (.overlap track.index track.starts ahead.ends)
    else overlap? track more

/-- Builds a table. Each track is checked for itself before any two are checked together. -/
def ofEntries (entries : List (TrackEntry α)) : Except (TableFault α) (TrackTable α) :=
  match place 0 entries with
  | [] => .error .empty
  | first :: others =>
    match (first :: others).findSome? ownFault? with
    | some fault => .error fault
    | none =>
      match overlap? first others with
      | some fault => .error fault
      | none => .ok { first, others }

/-! ### Looking tracks up -/

/-- The tracks of a table. -/
def toList (table : TrackTable α) : List (Track α) := table.first :: table.others

/-- The number of tracks. -/
def size (table : TrackTable α) : Nat := table.others.length + 1

/-- The place of the last track. -/
def lastIndex (table : TrackTable α) : Nat := table.others.length

def isSingle (table : TrackTable α) : Bool := table.others.isEmpty

/-- The track at a place. -/
def get? (table : TrackTable α) (index : Nat) : Option (Track α) := table.toList[index]?

/-- The last track. -/
def last (table : TrackTable α) : Track α := table.others.getLast?.getD table.first

/-- The first track with a slug. -/
def ofSlug? (table : TrackTable α) (slug : String) : Option (Track α) :=
  table.toList.find? fun track => track.slug == slug

/-- The track to which a time belongs. -/
def trackAt? (table : TrackTable α) (time : α) : Option (Track α) :=
  match table.toList.find? fun track => track.covers time with
  | some track => some track
  | none => if Scalar.same time table.last.ends then some table.last else none

end TrackTable

/-- Which of the buttons that skip have nothing to skip to. -/
structure SkipFlags where
  previousDisabled : Bool
  nextDisabled : Bool
deriving DecidableEq, Repr

/-- The flags while a track plays. -/
def TrackTable.skipFlags {α : Type} (table : TrackTable α) (current : Nat) : SkipFlags :=
  ⟨current == 0, decide (table.others.length ≤ current)⟩

end ReleasePlayer
