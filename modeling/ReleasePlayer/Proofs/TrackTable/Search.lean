/-
This file says exactly which track the search for a time finds. In an accepted table the tracks stand
one after the other, so no two of them cover one time; the search finds the track that covers the
time, and the last track for the very end of the release. The last track never takes the end away
from another one, since no other track goes on after the last has started. A track that was found has
started, and all tracks ahead of it have ended by then: so a later time is never found on an earlier
track.
-/

import ReleasePlayer.Proofs.Double.Arithmetic
import ReleasePlayer.Proofs.TrackTable.Order

namespace ReleasePlayer

theorem Track.covers_iff {α : Type} [Scalar α] {track : Track α} {time : α} :
    track.covers time = true ↔ track.starts ≤ time ∧ time < track.ends := by
  unfold Track.covers
  rw [Bool.and_eq_true, decide_eq_true_iff, decide_eq_true_iff]

namespace TrackTable

variable {α : Type} [Scalar α] [Scalar.Ordered α]

theorem countP_covers_le_one {tracks : List (Track α)}
    (apart : tracks.Pairwise fun ahead track => ahead.ends ≤ track.starts) (time : α) :
    tracks.countP (fun track => track.covers time) ≤ 1 := by
  induction tracks with
  | nil => exact Nat.zero_le 1
  | cons ahead more inductionHypothesis =>
    obtain ⟨ends, later⟩ := List.pairwise_cons.mp apart
    rw [List.countP_cons]
    split
    · -- whatever comes after a track that covers the time starts too late for it
      rename_i covers
      have uncovered : more.countP (fun track => track.covers time) = 0 := by
        refine List.countP_eq_zero.mpr fun track member coversToo => ?_
        have started := (Track.covers_iff.mp coversToo).1
        have notEnded := (Track.covers_iff.mp covers).2
        exact Scalar.not_lt_of_le (Scalar.Ordered.le_trans (ends track member) started) notEnded
      rw [uncovered]
    · exact inductionHypothesis later

omit [Scalar.Ordered α] in
theorem InOrder.get?_index {table : TrackTable α} (inOrder : InOrder table) {track : Track α}
    (member : track ∈ table.toList) : table.get? track.index = some track := by
  obtain ⟨place, found⟩ := List.mem_iff_getElem?.mp member
  have found : table.get? place = some track := found
  rw [inOrder.index found]
  exact found

omit [Scalar.Ordered α] in
theorem InOrder.eq_last_iff {table : TrackTable α} (inOrder : InOrder table) {track : Track α}
    (found : table.get? track.index = some track) :
    track = table.last ↔ track.index = table.lastIndex := by
  have last := table.get?_lastIndex
  constructor
  · rintro rfl
    exact inOrder.index last
  · intro same
    rw [same, last] at found
    exact (Option.some.inj found).symm

/-- The search finds the track that covers a time, or the last one for the very end. -/
theorem InOrder.trackAt?_eq_some_iff {table : TrackTable α} (inOrder : InOrder table) {time : α}
    {track : Track α} :
    table.trackAt? time = some track ↔ table.get? track.index = some track ∧
      (track.starts ≤ time ∧ time < track.ends ∨
        Scalar.same time table.last.ends = true ∧ track.index = table.lastIndex) := by
  constructor
  · intro found
    unfold trackAt? at found
    split at found
    · rename_i covering search
      obtain rfl := Option.some.inj found
      have covers : covering.covers time = true := by simpa using List.find?_some search
      exact ⟨inOrder.get?_index (List.mem_of_find?_eq_some search),
        Or.inl (Track.covers_iff.mp covers)⟩
    · split at found
      · rename_i atEnd
        obtain rfl := Option.some.inj found
        have place := inOrder.index table.get?_lastIndex
        refine ⟨?_, Or.inr ⟨atEnd, place⟩⟩
        rw [place]
        exact table.get?_lastIndex
      · cases found
  · rintro ⟨placed, ⟨started, notEnded⟩ | ⟨atEnd, isLast⟩⟩
    · exact trackAt?_of_covers inOrder placed started notEnded
    · obtain rfl := (inOrder.eq_last_iff placed).mpr isLast
      obtain ⟨notPast, reached⟩ := Scalar.same_iff.mp atEnd
      have forward := inOrder.forward (mem_of_get? placed)
      exact trackAt?_of_last inOrder table.get?_lastIndex
        (Scalar.Ordered.le_trans forward reached) notPast

/-- A time belongs to no track that starts after it. -/
theorem InOrder.starts_le_of_trackAt? {table : TrackTable α} (inOrder : InOrder table) {time : α}
    {track : Track α} (found : table.trackAt? time = some track) : track.starts ≤ time := by
  obtain ⟨placed, ⟨started, -⟩ | ⟨atEnd, isLast⟩⟩ := inOrder.trackAt?_eq_some_iff.mp found
  · exact started
  · obtain rfl := (inOrder.eq_last_iff placed).mpr isLast
    have reached := (Scalar.same_iff.mp atEnd).2
    exact Scalar.Ordered.le_trans (inOrder.forward (mem_of_get? placed)) reached

/-- A time belongs to no track that ends before it. -/
theorem InOrder.le_ends_of_trackAt? {table : TrackTable α} (inOrder : InOrder table) {time : α}
    {track : Track α} (found : table.trackAt? time = some track) : time ≤ track.ends := by
  obtain ⟨placed, ⟨-, notEnded⟩ | ⟨atEnd, isLast⟩⟩ := inOrder.trackAt?_eq_some_iff.mp found
  · exact Scalar.le_of_lt notEnded
  · obtain rfl := (inOrder.eq_last_iff placed).mpr isLast
    exact (Scalar.same_iff.mp atEnd).1

omit [Scalar.Ordered α] in
theorem InOrder.ends_le_starts {table : TrackTable α} (inOrder : InOrder table)
    {track other : Track α} (placed : table.get? track.index = some track)
    (otherPlaced : table.get? other.index = some other) (ahead : other.index < track.index) :
    other.ends ≤ track.starts := by
  obtain ⟨within, here⟩ := List.getElem?_eq_some_iff.mp placed
  obtain ⟨otherWithin, there⟩ := List.getElem?_eq_some_iff.mp otherPlaced
  have apart := List.pairwise_iff_getElem.mp inOrder.apart _ _ otherWithin within ahead
  rw [here, there] at apart
  exact apart

theorem InOrder.index_le_of_le {table : TrackTable α} (inOrder : InOrder table) {time later : α}
    (le : time ≤ later) {track other : Track α} (found : table.trackAt? time = some track)
    (foundLater : table.trackAt? later = some other) : track.index ≤ other.index := by
  by_contra ahead
  have ahead : other.index < track.index := Nat.lt_of_not_le ahead
  have placed := (inOrder.trackAt?_eq_some_iff.mp found).1
  obtain ⟨otherPlaced, ⟨-, notEnded⟩ | ⟨-, isLast⟩⟩ := inOrder.trackAt?_eq_some_iff.mp foundLater
  · have ended := inOrder.ends_le_starts placed otherPlaced ahead
    have started := inOrder.starts_le_of_trackAt? found
    exact Scalar.not_lt_of_le (Scalar.Ordered.le_trans ended
      (Scalar.Ordered.le_trans started le)) notEnded
  · obtain ⟨within, -⟩ := List.getElem?_eq_some_iff.mp placed
    rw [isLast] at ahead
    exact Nat.not_lt_of_le (Nat.le_of_lt_succ within) ahead

/-- In an accepted table at most one track covers a time; a time belongs to the track that covers it,
and the very end of the release to the last one; and a later time never belongs to an earlier
track. -/
theorem boundaries_resolve_in_order {entries : List (TrackEntry α)} {table : TrackTable α}
    (accepted : ofEntries entries = .ok table) (time : α) :
    table.toList.countP (fun track => track.covers time) ≤ 1 ∧
      (∀ track, table.trackAt? time = some track ↔ table.get? track.index = some track ∧
        (track.starts ≤ time ∧ time < track.ends ∨
          Scalar.same time table.last.ends = true ∧ track.index = table.lastIndex)) ∧
      ∀ later track other, time ≤ later → table.trackAt? time = some track →
        table.trackAt? later = some other → track.index ≤ other.index := by
  have inOrder := inOrder_of_ofEntries accepted
  exact ⟨countP_covers_le_one inOrder.apart time, fun _ => inOrder.trackAt?_eq_some_iff,
    fun _ _ _ le found foundLater => inOrder.index_le_of_le le found foundLater⟩

/-- A release of four tracks, with a gap before the third one, a track without length after the first
one and another at the end. -/
def gapped : List (TrackEntry Float) :=
  [⟨"dawn", "Dawn", "", 0.0, 10.0⟩, ⟨"chime", "Chime", "", 10.0, 10.0⟩,
    ⟨"dusk", "Dusk", "", 12.0, 20.0⟩, ⟨"silence", "Silence", "", 20.0, 20.0⟩]

/-- The end of a release belongs to its last track even if nothing is left of it to play. -/
theorem release_end_resolves_to_last :
    ∃ table, ofEntries gapped = .ok table ∧
      table.toList.countP (fun track => track.covers 20.0) ≤ 1 ∧
      table.trackAt? 20.0 = some table.last ∧
      (12.0 : Float) ≤ 20.0 ∧
      ∀ track, table.trackAt? 12.0 = some track → track.index ≤ table.last.index := by
  cases made : ofEntries gapped with
  | error fault =>
    have passed : (ofEntries gapped).toOption.isSome = true := by decide +kernel
    rw [made] at passed
    cases passed
  | ok table =>
    have passed : (ofEntries gapped).toOption.all (fun table =>
        Scalar.same 20.0 table.last.ends && (table.last.index == table.lastIndex)) = true := by
      decide +kernel
    rw [made] at passed
    simp only [Except.toOption, Option.all_some, Bool.and_eq_true, beq_iff_eq] at passed
    have ordered : (12.0 : Float) ≤ 20.0 := by decide +kernel
    obtain ⟨alone, resolves, -⟩ := boundaries_resolve_in_order made (20.0 : Float)
    have placed : table.get? table.last.index = some table.last := by
      rw [passed.2]
      exact table.get?_lastIndex
    have atEnd := (resolves table.last).mpr ⟨placed, Or.inr passed⟩
    exact ⟨table, rfl, alone, atEnd, ordered, fun track found =>
      (boundaries_resolve_in_order made (12.0 : Float)).2.2 20.0 track table.last ordered found atEnd⟩

end TrackTable

end ReleasePlayer
