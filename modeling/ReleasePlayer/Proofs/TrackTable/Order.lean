/-
This file proves what the checks of a track table buy. In a table that was accepted the tracks stand
in their places, no track ends before it starts, and no track starts before any of those ahead of it
ends. So a time belongs to one track at most, and the search for that track finds it: the track that
covers the time, or the last one for the very end of the release.
-/

import ReleasePlayer.Proofs.Scalar.Order
import ReleasePlayer.TrackTable

namespace ReleasePlayer

namespace TrackTable

variable {α : Type} [Scalar α]

/-! ### Accepted tables -/

/-- The tracks of a table are in their places and in order. -/
structure InOrder (table : TrackTable α) : Prop where
  index {place : Nat} {track : Track α} : table.get? place = some track → track.index = place
  finite {track : Track α} : track ∈ table.toList →
    Scalar.isFinite track.starts = true ∧ Scalar.isFinite track.ends = true
  forward {track : Track α} : track ∈ table.toList → track.starts ≤ track.ends
  apart : table.toList.Pairwise fun ahead track => ahead.ends ≤ track.starts

omit [Scalar α] in
theorem place_getElem? (index : Nat) (entries : List (TrackEntry α)) (place : Nat) :
    (TrackTable.place index entries)[place]? =
      entries[place]?.map fun entry => ⟨entry, index + place⟩ := by
  induction entries generalizing index place with
  | nil => rfl
  | cons entry more inductionHypothesis =>
    cases place with
    | zero => rfl
    | succ place =>
      rw [TrackTable.place, List.getElem?_cons_succ, List.getElem?_cons_succ,
        inductionHypothesis, Nat.add_right_comm, Nat.add_assoc]

variable [Scalar.Ordered α]

/-- A track that nothing is wrong with has finite times and does not end before it starts. -/
theorem sound_of_ownFault? {track : Track α} (sound : ownFault? track = none) :
    (Scalar.isFinite track.starts = true ∧ Scalar.isFinite track.ends = true) ∧
      track.starts ≤ track.ends := by
  unfold ownFault? at sound
  split at sound
  · cases sound
  · rename_i finite
    split at sound
    · cases sound
    · rename_i notInverted
      simp only [Bool.or_eq_true, Bool.not_eq_true', not_or, Bool.not_eq_false] at finite
      exact ⟨finite, Scalar.le_of_not_lt (Scalar.Ordered.refl_of_isFinite finite.2)
        (Scalar.Ordered.refl_of_isFinite finite.1) notInverted⟩

/-- Tracks of which no two in a row overlap do not overlap at all. -/
theorem apart_of_overlap? {ahead : Track α} {tracks : List (Track α)}
    (sound : ∀ track ∈ ahead :: tracks, (Scalar.isFinite track.starts = true ∧
      Scalar.isFinite track.ends = true) ∧ track.starts ≤ track.ends)
    (clear : overlap? ahead tracks = none) :
    (ahead :: tracks).Pairwise fun ahead track => ahead.ends ≤ track.starts := by
  induction tracks generalizing ahead with
  | nil => exact List.pairwise_singleton _ _
  | cons track more inductionHypothesis =>
    unfold overlap? at clear
    split at clear
    · cases clear
    · rename_i notBefore
      have later := inductionHypothesis (fun other member => sound other
        (List.mem_cons_of_mem _ member)) clear
      have aheadSound := sound ahead List.mem_cons_self
      have trackSound := sound track (List.mem_cons_of_mem _ List.mem_cons_self)
      have first : ahead.ends ≤ track.starts :=
        Scalar.le_of_not_lt (Scalar.Ordered.refl_of_isFinite trackSound.1.1)
          (Scalar.Ordered.refl_of_isFinite aheadSound.1.2) notBefore
      refine List.Pairwise.cons (fun other member => ?_) later
      rcases List.mem_cons.mp member with rfl | further
      · exact first
      · exact Scalar.Ordered.le_trans first (Scalar.Ordered.le_trans trackSound.2
          ((List.pairwise_cons.mp later).1 other further))

/-- A table that was accepted is in order. -/
theorem inOrder_of_ofEntries {entries : List (TrackEntry α)} {table : TrackTable α}
    (accepted : ofEntries entries = .ok table) : InOrder table := by
  unfold ofEntries at accepted
  split at accepted
  · cases accepted
  · rename_i first others placed
    split at accepted
    · cases accepted
    · rename_i sound
      split at accepted
      · cases accepted
      · rename_i clear
        obtain rfl := Except.ok.inj accepted
        have each : ∀ track ∈ first :: others, (Scalar.isFinite track.starts = true ∧
            Scalar.isFinite track.ends = true) ∧ track.starts ≤ track.ends :=
          fun track member => sound_of_ownFault? (List.findSome?_eq_none_iff.mp sound track member)
        refine ⟨fun {place track} found => ?_, fun member => (each _ member).1,
          fun member => (each _ member).2, apart_of_overlap? each clear⟩
        have found : (first :: others)[place]? = some track := found
        rw [← placed, place_getElem?, Option.map_eq_some_iff] at found
        obtain ⟨entry, -, rfl⟩ := found
        exact Nat.zero_add place

/-! ### Finding the track of a time -/

omit [Scalar α] [Scalar.Ordered α] in
theorem mem_of_get? {table : TrackTable α} {place : Nat} {track : Track α}
    (found : table.get? place = some track) : track ∈ table.toList :=
  List.mem_of_getElem? found

/-- No track ahead of one that started covers the time. -/
theorem find?_of_started {tracks : List (Track α)} {place : Nat} {track : Track α} {time : α}
    (apart : tracks.Pairwise fun ahead track => ahead.ends ≤ track.starts)
    (found : tracks[place]? = some track) (started : track.starts ≤ time) :
    tracks.find? (fun other => other.covers time) =
      (tracks.drop place).find? fun other => other.covers time := by
  induction tracks generalizing place with
  | nil => cases found
  | cons ahead more inductionHypothesis =>
    cases place with
    | zero => rfl
    | succ place =>
      obtain ⟨ends, later⟩ := List.pairwise_cons.mp apart
      have found : more[place]? = some track := found
      have ended : ahead.ends ≤ time :=
        Scalar.Ordered.le_trans (ends track (List.mem_of_getElem? found)) started
      have passed : ahead.covers time = false := by
        unfold Track.covers
        rw [decide_eq_false (Scalar.not_lt_of_le ended), Bool.and_false]
      rw [List.find?_cons, passed]
      exact inductionHypothesis later found

/-- The search finds the track that covers a time. -/
theorem trackAt?_of_covers {table : TrackTable α} (inOrder : InOrder table) {place : Nat}
    {track : Track α} (found : table.get? place = some track) {time : α}
    (started : track.starts ≤ time) (notEnded : time < track.ends) :
    table.trackAt? time = some track := by
  have covers : track.covers time = true := by
    unfold Track.covers
    rw [decide_eq_true started, decide_eq_true notEnded, Bool.and_self]
  have search : table.toList.find? (fun other => other.covers time) = some track := by
    obtain ⟨within, at_⟩ := List.getElem?_eq_some_iff.mp found
    rw [find?_of_started inOrder.apart found started, List.drop_eq_getElem_cons within, at_]
    exact List.find?_cons_of_pos covers
  unfold trackAt?
  rw [search]

omit [Scalar α] [Scalar.Ordered α] in
theorem get?_lastIndex (table : TrackTable α) : table.get? table.lastIndex = some table.last := by
  obtain ⟨first, others⟩ := table
  unfold last
  cases others with
  | nil => rfl
  | cons other more =>
    show (other :: more)[more.length]? = some ((other :: more).getLast?.getD first)
    rw [List.getLast?_eq_getElem?, List.length_cons, Nat.add_sub_cancel,
      List.getElem?_eq_getElem (by rw [List.length_cons]; exact Nat.lt_succ_self _)]
    rfl

omit [Scalar α] [Scalar.Ordered α] in
theorem le_lastIndex_of_get? {table : TrackTable α} {place : Nat} {track : Track α}
    (placed : table.get? place = some track) : place ≤ table.lastIndex :=
  Nat.le_of_lt_succ (List.getElem?_eq_some_iff.mp placed).1

omit [Scalar α] [Scalar.Ordered α] in
theorem exists_get? {table : TrackTable α} {place : Nat} (within : place ≤ table.lastIndex) :
    ∃ track, table.get? place = some track :=
  ⟨_, List.getElem?_eq_getElem (Nat.lt_succ_of_le within)⟩

/-- No track ends after the last one. -/
theorem ends_le_last {table : TrackTable α} (inOrder : InOrder table) {place : Nat}
    {track : Track α} (found : table.get? place = some track) : track.ends ≤ table.last.ends := by
  have last := get?_lastIndex table
  have lastForward := inOrder.forward (mem_of_get? last)
  obtain ⟨within, at_⟩ := List.getElem?_eq_some_iff.mp found
  obtain ⟨lastWithin, lastAt⟩ := List.getElem?_eq_some_iff.mp last
  rcases Nat.lt_or_eq_of_le (Nat.le_of_lt_succ within) with ahead | rfl
  · have apart := List.pairwise_iff_getElem.mp inOrder.apart place table.lastIndex within lastWithin
      ahead
    rw [at_, lastAt] at apart
    exact Scalar.Ordered.le_trans apart lastForward
  · obtain rfl : track = table.last := Option.some.inj (found.symm.trans last)
    exact Scalar.Ordered.refl_right lastForward

/-- A time within the last track belongs to it, its very end included. -/
theorem trackAt?_of_last {table : TrackTable α} (inOrder : InOrder table) {track : Track α}
    (found : table.get? table.lastIndex = some track) {time : α} (started : track.starts ≤ time)
    (notPast : time ≤ track.ends) : table.trackAt? time = some track := by
  by_cases notEnded : time < track.ends
  · exact trackAt?_of_covers inOrder found started notEnded
  · have back : track.ends ≤ time :=
      Scalar.le_of_not_lt (Scalar.Ordered.refl_left notPast) (Scalar.Ordered.refl_right notPast)
        notEnded
    have uncovered : track.covers time = false := by
      unfold Track.covers
      rw [decide_eq_false notEnded, Bool.and_false]
    have search : table.toList.find? (fun other => other.covers time) = none := by
      obtain ⟨within, at_⟩ := List.getElem?_eq_some_iff.mp found
      have drained : table.toList.drop (table.lastIndex + 1) = [] :=
        List.drop_eq_nil_of_le (Nat.le_refl _)
      rw [find?_of_started inOrder.apart found started, List.drop_eq_getElem_cons within, at_,
        drained, List.find?_cons, uncovered]
      rfl
    unfold trackAt?
    rw [search]
    obtain rfl : track = table.last := Option.some.inj (found.symm.trans (get?_lastIndex table))
    exact if_pos (by unfold Scalar.same; rw [decide_eq_true notPast, decide_eq_true back]; rfl)

end TrackTable

end ReleasePlayer
