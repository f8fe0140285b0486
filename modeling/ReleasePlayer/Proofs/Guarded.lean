/-
This file writes the parts of a player down a second time, with guards. A guarded part reads a track or
a panel only where there is one, counts back from a number only if that is not zero, and keeps a number
within bounds only if these bound an interval. Where it cannot do that it gives nothing: it neither falls
back on something else nor leaves anything out. So whatever a guarded part does give was come by without
a misstep. For each part it is proved that it gives exactly what the part without guards gives. Numbers may
be anything for that, and a follower has to fit the table, which it goes on to do.
-/

import ReleasePlayer.Bar
import ReleasePlayer.Proofs.Follower.Lyrics
import ReleasePlayer.Proofs.TrackTable.Search
import ReleasePlayer.Proofs.Volume.Doubles

namespace ReleasePlayer

/-! ### Places in a table -/

namespace TrackTable

variable {α : Type} {table : TrackTable α} {index : Nat}

theorem exists_get?_of_lt (within : index < table.size) : ∃ track, table.get? index = some track :=
  exists_get? (Nat.le_of_lt_succ within)

theorem lt_size_of_get? {track : Track α} (placed : table.get? index = some track) :
    index < table.size :=
  Nat.lt_succ_of_le (le_lastIndex_of_get? placed)

/-- A track that covers a time is one of the table. -/
theorem InOrder.index_lt_of_trackAt? [Scalar α] [Scalar.Ordered α] (inOrder : table.InOrder)
    {time : α} {track : Track α} (covered : table.trackAt? time = some track) :
    track.index < table.size :=
  lt_size_of_get? (inOrder.trackAt?_eq_some_iff.mp covered).1

end TrackTable

/-! ### Followers that fit a table -/

/-- The tracks that a change names are all of the table. -/
structure TrackChange.Fits {α : Type} (table : TrackTable α) (change : TrackChange) : Prop where
  previous : change.previous < table.size
  closeLyrics : ∀ index ∈ change.closeLyrics, index < table.size
  openLyrics : ∀ index ∈ change.openLyrics, index < table.size

namespace Follower

section Lengths

variable (follower : Follower)

@[simp]
theorem length_lyrics_register (index : Nat) (isOpen : Bool) :
    (follower.register index isOpen).lyrics.length = follower.lyrics.length :=
  List.length_set

/-- Leaving a track writes a panel, but makes no place for another. -/
@[simp]
theorem length_lyrics_leave : follower.leave.1.lyrics.length = follower.lyrics.length := by
  unfold leave
  split
  · exact length_lyrics_register follower _ _
  · rfl
  · rfl

@[simp]
theorem length_lyrics_reach (index : Nat) (wanted : Bool) :
    (follower.reach index wanted).lyrics.length = follower.lyrics.length := by
  unfold reach
  dsimp only
  split
  · split
    · exact length_lyrics_register _ _ _
    · rfl
  · rfl

end Lengths

variable {α : Type} {table : TrackTable α} {follower : Follower}

/-- The current track is one of the table, and there is one place for the panel of each. -/
structure Fits (table : TrackTable α) (follower : Follower) : Prop where
  current : follower.current < table.size
  lyrics : follower.lyrics.length = table.size

/-- A follower starts at the first track, with a place for each. -/
theorem fits_start (table : TrackTable α) : Fits table (start table.size) :=
  ⟨Nat.succ_pos _, List.length_replicate⟩

theorem Fits.register (fits : Fits table follower) (index : Nat) (isOpen : Bool) :
    Fits table (follower.register index isOpen) :=
  ⟨fits.current, (follower.length_lyrics_register index isOpen).trans fits.lyrics⟩

theorem Fits.setOpen (fits : Fits table follower) (index : Nat) (isOpen : Bool) :
    Fits table (follower.setOpen index isOpen) := by
  rcases follower.setOpen_eq index isOpen with noted | unchanged
  · rw [noted]
    exact fits.register index isOpen
  · rw [unchanged]
    exact fits

/-- Going to a track of the table, a follower goes on to fit it. -/
theorem Fits.moveTo (fits : Fits table follower) {index : Nat} (within : index < table.size) :
    Fits table (follower.moveTo index).1 := by
  have arrived : (follower.moveTo index).1 = follower.leave.1.reach index follower.leave.2 := rfl
  rw [arrived]
  refine ⟨?_, ?_⟩
  · rw [current_reach]
    exact within
  · rw [length_lyrics_reach, length_lyrics_leave]
    exact fits.lyrics

/-- The panels that a change opens and closes are those of the two tracks it is between. -/
theorem Fits.change_moveTo (fits : Fits table follower) {index : Nat}
    (within : index < table.size) : TrackChange.Fits table (follower.moveTo index).2 := by
  refine ⟨fits.current, fun closed member => ?_, fun opened member => ?_⟩
  · obtain ⟨-, same⟩ := Option.ite_none_right_eq_some.mp member
    obtain rfl := Option.some.inj same
    exact fits.current
  · obtain ⟨-, same⟩ := Option.ite_none_right_eq_some.mp member
    obtain rfl := Option.some.inj same
    exact within

variable [Scalar α] [Scalar.Ordered α]

theorem Fits.observe (fits : Fits table follower) (inOrder : table.InOrder) (time : α) :
    Fits table (follower.observe table time).1 := by
  unfold Follower.observe
  split
  · exact fits
  · rename_i track covered
    split
    · exact fits
    · exact fits.moveTo (inOrder.index_lt_of_trackAt? covered)

/-- Whatever change a position brings about, it is between tracks of the table. -/
theorem Fits.change_observe (fits : Fits table follower) (inOrder : table.InOrder) {time : α}
    {change : TrackChange} (changed : (follower.observe table time).2 = some change) :
    change.Fits table := by
  unfold Follower.observe at changed
  split at changed
  · cases changed
  · rename_i track covered
    split at changed
    · cases changed
    · obtain rfl := Option.some.inj changed
      exact fits.change_moveTo (inOrder.index_lt_of_trackAt? covered)

end Follower

namespace Guarded

/-! ### Numbers -/

section Numbers

variable {α : Type} [Scalar α]

/-- Keeps a fraction within the unit interval. -/
def clampUnit (x : α) : Option α := if x ≤ x then Scalar.clamp? 0.0 1.0 x else some 0.0

/-- The fraction across a bar. -/
def across (bar : Bar α) (x : α) : Option α := clampUnit ((x - bar.left) / bar.width)

/-- The fraction along the direction in which a bar fills. -/
def along (bar : Bar α) (axis : BarAxis) (x y : α) : Option α :=
  match axis with
  | .vertical => (clampUnit ((y - bar.top) / bar.height)).map fun fromTop => 1.0 - fromTop
  | .horizontal => across bar x

/-- The time at a fraction of a track. -/
def timeAt (track : Track α) (fraction : α) : Option α :=
  (clampUnit fraction).map fun within => track.starts + track.length * within

/-- The fraction of a track that is filled up to a time. -/
def filledAt (track : Track α) (time : α) : Option α := clampUnit (track.fractionAt time)

theorem clamp?_of_le {lo hi : α} (bounds : lo ≤ hi) (x : α) :
    Scalar.clamp? lo hi x = some (Scalar.clamp lo hi x) := if_pos bounds

variable [Scalar.Ordered α]

/-- What is not a number is taken for zero before it meets the bounds. -/
theorem clampUnit_eq (x : α) : clampUnit x = some (Scalar.clampUnit x) := by
  unfold clampUnit Scalar.clampUnit
  split
  · exact clamp?_of_le Scalar.Ordered.zero_le_one x
  · rfl

theorem across_eq (bar : Bar α) (x : α) : across bar x = some (bar.across x) := clampUnit_eq _

/-- A bar may have no size at all: the fraction is whatever the division gives, kept within the unit
interval. -/
theorem along_eq (bar : Bar α) (axis : BarAxis) (x y : α) :
    along bar axis x y = some (bar.along axis x y) := by
  cases axis with
  | vertical =>
    unfold along
    dsimp only
    rw [clampUnit_eq]
    rfl
  | horizontal => exact across_eq bar x

theorem timeAt_eq (track : Track α) (fraction : α) :
    timeAt track fraction = some (track.timeAt fraction) := by
  unfold timeAt
  rw [clampUnit_eq]
  rfl

theorem filledAt_eq (track : Track α) (time : α) :
    filledAt track time = some (track.filledAt time) := clampUnit_eq _

end Numbers

/-! ### The table -/

section Table

variable {α : Type} (table : TrackTable α)

/-- The first track. -/
def first : Option (Track α) := table.toList[0]?

/-- The place of the last track. -/
def lastIndex : Option Nat :=
  if table.toList.length = 0 then none else some (table.toList.length - 1)

/-- The flags of the buttons that skip. -/
def skipFlags (current : Nat) : Option SkipFlags :=
  (lastIndex table).map fun last => ⟨current == 0, decide (last ≤ current)⟩

theorem first_eq : first table = some table.first := rfl

/-- A table has at least one track. -/
theorem lastIndex_eq : lastIndex table = some table.lastIndex := if_neg (Nat.succ_ne_zero _)

theorem skipFlags_eq (current : Nat) :
    skipFlags table current = some (table.skipFlags current) := by
  unfold skipFlags
  rw [lastIndex_eq]
  rfl

end Table

/-! ### The follower -/

section Following

/-- Notes that a track has a panel. -/
def register (follower : Follower) (index : Nat) (isOpen : Bool) : Option Follower :=
  if index < follower.lyrics.length then some (follower.register index isOpen) else none

/-- Notes that the panel of a track was opened or closed. -/
def setOpen (follower : Follower) (index : Nat) (isOpen : Bool) : Option Follower :=
  if index < follower.lyrics.length then some (follower.setOpen index isOpen) else none

/-- Goes from the current track to another. The panels of both are read and written on the way. -/
def moveTo (follower : Follower) (index : Nat) : Option (Follower × TrackChange) :=
  if follower.current < follower.lyrics.length ∧ index < follower.lyrics.length then
    some (follower.moveTo index)
  else none

/-- Takes note of a position. -/
def observe {α : Type} [Scalar α] (follower : Follower) (table : TrackTable α) (time : α) :
    Option (Follower × Option TrackChange) :=
  match table.trackAt? time with
  | none => some (follower, none)
  | some track =>
    if track.index = follower.current then some (follower, none)
    else (moveTo follower track.index).map fun (moved, change) => (moved, some change)

variable {α : Type} {table : TrackTable α} {follower : Follower}

theorem register_eq (fits : follower.Fits table) {index : Nat} (within : index < table.size)
    (isOpen : Bool) : register follower index isOpen = some (follower.register index isOpen) := by
  unfold register
  rw [fits.lyrics, if_pos within]

theorem setOpen_eq (fits : follower.Fits table) {index : Nat} (within : index < table.size)
    (isOpen : Bool) : setOpen follower index isOpen = some (follower.setOpen index isOpen) := by
  unfold setOpen
  rw [fits.lyrics, if_pos within]

theorem moveTo_eq (fits : follower.Fits table) {index : Nat} (within : index < table.size) :
    moveTo follower index = some (follower.moveTo index) := by
  unfold moveTo
  rw [fits.lyrics, if_pos ⟨fits.current, within⟩]

variable [Scalar α] [Scalar.Ordered α]

/-- Only the track of a time is gone to, and that is one of the table. -/
theorem observe_eq (inOrder : table.InOrder) (fits : follower.Fits table) (time : α) :
    observe follower table time = some (follower.observe table time) := by
  unfold observe
  split
  · rename_i uncovered
    rw [Follower.observe_of_uncovered uncovered]
  · rename_i track covered
    split
    · rename_i same
      rw [Follower.observe_of_same covered same]
    · rename_i other
      rw [moveTo_eq fits (inOrder.index_lt_of_trackAt? covered),
        Follower.observe_of_other covered other]
      rfl

end Following

/-! ### The volume -/

section Sound

variable {α G : Type} [Scalar α] [GainStage α G]

/-- Keeps a gain within what an output can do. -/
def clampOutput (headroom : Headroom) (gain : α) : Option α :=
  match headroom with
  | .unity => Scalar.clamp? 0.0 1.0 gain
  | .amplified => some (Scalar.atLeastZero gain)

/-- Gives the output a gain. -/
def setGain (control : VolumeControl α G) (gain : α) : Option (VolumeControl α G) :=
  (clampOutput control.headroom gain).map fun possible =>
    { control with output := GainStage.setGain control.output possible }

/-- Sets the volume. -/
def setVolume (control : VolumeControl α G) (volume : α) : Option (VolumeControl α G) := do
  let within ← Scalar.clamp? 0.0 control.headroom.maxVolume volume
  setGain control (control.compensation.apply within control.replaygain)

/-- The volume at a fraction of the volume bar. -/
def volumeAt (headroom : Headroom) (fraction : α) : Option α := do
  let within ← if Scalar.isFinite fraction then Scalar.clamp? 0.0 1.0 fraction else some 0.0
  some (headroom.snap (within * headroom.maxVolume))

/-- Does something to the volume. -/
def act (control : VolumeControl α G) : VolumeAction α → Option (VolumeControl α G)
  | .set volume => setVolume control volume
  | .fraction fraction => do
    let volume ← volumeAt control.headroom fraction
    setVolume control volume
  | .mute =>
    if Scalar.same control.gain 0.0 then setVolume control control.beforeMute
    else setGain { control with beforeMute := control.volume } 0.0
  | .replaygain =>
    let factor := control.compensation.factor
    let gain := if control.replaygain then control.gain / factor else control.gain * factor
    setGain { control with replaygain := !control.replaygain } gain

/-- How far the volume bar is filled. -/
def fill (control : VolumeControl α G) : Option α :=
  Scalar.clamp? 0.0 1.0 (control.volume / control.maxVolume)

end Sound

section Doubles

variable {G : Type} [GainStage Float G] (control : VolumeControl Float G)

/-- An output that amplifies has no upper bound, and the other one has the unit interval. -/
theorem clampOutput_eq (headroom : Headroom) (gain : Float) :
    clampOutput headroom gain = some (headroom.clampOutput gain) := by
  cases headroom with
  | unity => exact clamp?_of_le Scalar.Ordered.zero_le_one gain
  | amplified => rfl

theorem setGain_eq (gain : Float) : setGain control gain = some (control.setGain gain) := by
  unfold setGain
  rw [clampOutput_eq]
  rfl

/-- The greatest volume is not negative, so it bounds an interval. -/
theorem setVolume_eq (volume : Float) :
    setVolume control volume = some (control.setVolume volume) := by
  unfold setVolume
  rw [clamp?_of_le control.headroom.maxVolume_nonneg]
  exact setGain_eq control _

theorem volumeAt_eq (headroom : Headroom) (fraction : Float) :
    volumeAt headroom fraction = some (VolumeControl.volumeAt headroom fraction) := by
  unfold volumeAt VolumeControl.volumeAt
  split
  · rw [clamp?_of_le Scalar.Ordered.zero_le_one]
    rfl
  · rfl

/-- Whatever is done to the volume ends in setting the volume or the gain. -/
theorem act_eq (action : VolumeAction Float) : act control action = some (control.act action) := by
  cases action with
  | set volume => exact setVolume_eq control volume
  | fraction fraction =>
    unfold act
    dsimp only
    rw [volumeAt_eq]
    exact setVolume_eq control _
  | mute =>
    unfold act VolumeControl.act VolumeControl.toggleMute
    dsimp only
    split
    · exact setVolume_eq control _
    · exact setGain_eq _ _
  | replaygain => exact setGain_eq _ _

theorem fill_eq : fill control = some control.fill := clamp?_of_le Scalar.Ordered.zero_le_one _

end Doubles

end Guarded

end ReleasePlayer
