/-
This file says which lists of tracks become tables, and what the others are refused for. A list
becomes a table just if it has tracks, each of them has finite times and does not end before it
starts, and none starts before any of those ahead of it ends. The tracks are looked at twice: first
each for itself, and only if nothing was found, each with the one ahead of it. So a track that is bad
in itself is the first such track, whatever overlaps there are before it; and if two tracks overlap,
all tracks are sound and those before the overlap are in order.
-/

import ReleasePlayer.Proofs.Double.Arithmetic
import ReleasePlayer.Proofs.TrackTable.Order

namespace ReleasePlayer

/-! ### Tracks that are sound in themselves -/

namespace TrackEntry

variable {α : Type} [Scalar α]

/-- A track starts and ends at finite times. -/
def IsFinite (entry : TrackEntry α) : Prop :=
  Scalar.isFinite entry.starts = true ∧ Scalar.isFinite entry.ends = true

/-- Nothing is wrong with the times of a track. -/
def IsSound (entry : TrackEntry α) : Prop := entry.IsFinite ∧ entry.starts ≤ entry.ends

instance (entry : TrackEntry α) : Decidable entry.IsFinite :=
  inferInstanceAs (Decidable (_ ∧ _))

instance (entry : TrackEntry α) : Decidable entry.IsSound :=
  inferInstanceAs (Decidable (_ ∧ _))

end TrackEntry

namespace TrackTable

variable {α : Type}

/-- No track of a list starts before any of those ahead of it ends. -/
def Apart [Scalar α] (entries : List (TrackEntry α)) : Prop :=
  entries.Pairwise fun ahead entry => ahead.ends ≤ entry.starts

/-- What a list of tracks is refused for. A track that is bad in itself comes behind sound ones only;
a track that starts too early comes behind tracks in order, and all tracks are sound then. -/
inductive Blames [Scalar α] (entries : List (TrackEntry α)) : TableFault α → Prop where
  | empty (none : entries = []) : Blames entries .empty
  | notFinite {earlier later : List (TrackEntry α)} {entry : TrackEntry α}
      (here : entries = earlier ++ entry :: later) (sound : ∀ other ∈ earlier, other.IsSound)
      (endless : ¬ entry.IsFinite) : Blames entries (.notFinite earlier.length)
  | inverted {earlier later : List (TrackEntry α)} {entry : TrackEntry α}
      (here : entries = earlier ++ entry :: later) (sound : ∀ other ∈ earlier, other.IsSound)
      (finite : entry.IsFinite) (back : entry.ends < entry.starts) :
      Blames entries (.inverted earlier.length entry.starts entry.ends)
  | overlap {earlier later : List (TrackEntry α)} {ahead entry : TrackEntry α}
      (here : entries = earlier ++ ahead :: entry :: later)
      (sound : ∀ other ∈ entries, other.IsSound) (apart : Apart (earlier ++ [ahead]))
      (early : entry.starts < ahead.ends) :
      Blames entries (.overlap (earlier.length + 1) entry.starts ahead.ends)

/-! ### Tracks in their places -/

theorem map_place (index : Nat) (entries : List (TrackEntry α)) :
    (place index entries).map Track.toTrackEntry = entries := by
  induction entries generalizing index with
  | nil => rfl
  | cons entry more inductionHypothesis =>
    rw [place, List.map_cons, inductionHypothesis]

theorem place_append (index : Nat) (first second : List (TrackEntry α)) :
    place index (first ++ second) = place index first ++ place (index + first.length) second := by
  induction first generalizing index with
  | nil => rfl
  | cons entry more inductionHypothesis =>
    rw [List.cons_append, place, inductionHypothesis, Nat.add_right_comm, Nat.add_assoc]
    rfl

/-- Tracks in their places are taken apart where the list of tracks is. -/
theorem eq_append_of_place {index : Nat} {entries : List (TrackEntry α)}
    {ahead behind : List (Track α)} (here : place index entries = ahead ++ behind) :
    ∃ first second, entries = first ++ second ∧ ahead = place index first ∧
      place (index + first.length) second = behind := by
  have parts := map_place index entries
  rw [here, List.map_append] at parts
  rw [← parts, place_append] at here
  have sameLength : (place index (ahead.map Track.toTrackEntry)).length = ahead.length := by
    rw [← List.length_map Track.toTrackEntry, map_place, List.length_map]
  obtain ⟨front, back⟩ := List.append_inj here sameLength
  exact ⟨_, _, parts.symm, front.symm, back⟩

theorem eq_cons_of_place {index : Nat} {entries : List (TrackEntry α)} {track : Track α}
    {behind : List (Track α)} (here : place index entries = track :: behind) :
    ∃ entry more, entries = entry :: more ∧ track = ⟨entry, index⟩ := by
  cases entries with
  | nil => cases here
  | cons entry more => exact ⟨entry, more, rfl, (List.cons.inj here).1.symm⟩

theorem pairwise_place {related : TrackEntry α → TrackEntry α → Prop} {index : Nat}
    {entries : List (TrackEntry α)} :
    ((place index entries).Pairwise fun ahead track =>
      related ahead.toTrackEntry track.toTrackEntry) ↔ entries.Pairwise related := by
  rw [← List.pairwise_map, map_place]

theorem forall_mem_place {holds : TrackEntry α → Prop} {index : Nat}
    {entries : List (TrackEntry α)} :
    (∀ track ∈ place index entries, holds track.toTrackEntry) ↔ ∀ entry ∈ entries, holds entry := by
  rw [← List.forall_mem_map, map_place]

variable [Scalar α]

/-! ### The first look -/

/-- What is wrong with a track in itself. -/
theorem ownFault?_eq_some_iff {track : Track α} {fault : TableFault α} :
    ownFault? track = some fault ↔
      ¬ track.IsFinite ∧ fault = .notFinite track.index ∨
      track.IsFinite ∧ track.ends < track.starts ∧
        fault = .inverted track.index track.starts track.ends := by
  have checked : (!Scalar.isFinite track.starts || !Scalar.isFinite track.ends) = true ↔
      ¬ track.IsFinite := by
    unfold TrackEntry.IsFinite
    rw [Bool.or_eq_true, Bool.not_eq_true', Bool.not_eq_true', not_and_or, Bool.not_eq_true,
      Bool.not_eq_true]
  unfold ownFault?
  by_cases finite : track.IsFinite
  · rw [if_neg (mt checked.mp (not_not.mpr finite))]
    by_cases back : track.ends < track.starts
    · simp [finite, back, eq_comm]
    · simp [finite, back]
  · rw [if_pos (checked.mpr finite)]
    simp [finite, eq_comm]

variable [Scalar.Ordered α]

theorem ownFault?_eq_none_iff {track : Track α} : ownFault? track = none ↔ track.IsSound := by
  constructor
  · exact sound_of_ownFault?
  · rintro ⟨finite, forward⟩
    refine Option.eq_none_iff_forall_ne_some.mpr fun fault found => ?_
    rcases ownFault?_eq_some_iff.mp found with ⟨endless, -⟩ | ⟨-, back, -⟩
    · exact endless finite
    · exact Scalar.not_lt_of_le forward back

/-- What the first look finds is wrong with the first track that is not sound. -/
theorem findSome?_place_eq_some_iff {index : Nat} {entries : List (TrackEntry α)}
    {fault : TableFault α} :
    (place index entries).findSome? ownFault? = some fault ↔
      ∃ earlier entry later, entries = earlier ++ entry :: later ∧
        (∀ other ∈ earlier, other.IsSound) ∧
          ownFault? ⟨entry, index + earlier.length⟩ = some fault := by
  rw [List.findSome?_eq_some_iff]
  constructor
  · rintro ⟨ahead, track, behind, here, own, clear⟩
    obtain ⟨earlier, rest, rfl, rfl, rests⟩ := eq_append_of_place here
    obtain ⟨entry, later, rfl, rfl⟩ := eq_cons_of_place rests
    have sound : ∀ other ∈ place index earlier, other.IsSound :=
      fun other member => ownFault?_eq_none_iff.mp (clear other member)
    exact ⟨earlier, entry, later, rfl, forall_mem_place.mp sound, own⟩
  · rintro ⟨earlier, entry, later, rfl, sound, own⟩
    refine ⟨place index earlier, _, _, place_append index earlier (entry :: later), own, ?_⟩
    exact fun other member => ownFault?_eq_none_iff.mpr (forall_mem_place.mpr sound other member)

/-! ### The second look -/

/-- A track that ends in time may come before tracks in order. -/
theorem Apart.cons {head next : TrackEntry α} {more : List (TrackEntry α)} (sound : next.IsSound)
    (inTime : head.ends ≤ next.starts) (apart : Apart (next :: more)) :
    Apart (head :: next :: more) := by
  refine List.Pairwise.cons (fun other member => ?_) apart
  rcases List.mem_cons.mp member with rfl | further
  · exact inTime
  · exact Scalar.Ordered.le_trans inTime (Scalar.Ordered.le_trans sound.2
      ((List.pairwise_cons.mp apart).1 other further))

omit [Scalar α] [Scalar.Ordered α] in
/-- Whatever part of a list is taken from its front starts with the first of the list. -/
theorem exists_cons_eq_append {next ahead : TrackEntry α} {more earlier later : List (TrackEntry α)}
    (here : next :: more = earlier ++ ahead :: later) :
    ∃ rest, earlier ++ [ahead] = next :: rest := by
  cases earlier with
  | nil =>
    obtain ⟨rfl, -⟩ := List.cons.inj here
    exact ⟨[], rfl⟩
  | cons other earlier =>
    obtain ⟨rfl, -⟩ := List.cons.inj here
    exact ⟨earlier ++ [ahead], rfl⟩

/-- What the second look finds among sound tracks is wrong with the first one that starts before the
one ahead of it ends. -/
theorem overlap?_place_eq_some_iff {index : Nat} {head : TrackEntry α}
    {more : List (TrackEntry α)} (sound : ∀ entry ∈ head :: more, entry.IsSound)
    {fault : TableFault α} :
    overlap? ⟨head, index⟩ (place (index + 1) more) = some fault ↔
      ∃ earlier ahead entry later, head :: more = earlier ++ ahead :: entry :: later ∧
        Apart (earlier ++ [ahead]) ∧ entry.starts < ahead.ends ∧
          fault = .overlap (index + earlier.length + 1) entry.starts ahead.ends := by
  induction more generalizing index head with
  | nil =>
    constructor
    · intro found
      cases found
    · rintro ⟨earlier, ahead, entry, later, here, -⟩
      have lengths := congrArg List.length here
      simp only [List.length_append, List.length_cons, List.length_nil] at lengths
      omega
  | cons next more inductionHypothesis =>
    obtain ⟨headSound, moreSound⟩ := List.forall_mem_cons.mp sound
    have nextSound := moreSound next List.mem_cons_self
    have unfolded : overlap? ⟨head, index⟩ (place (index + 1) (next :: more)) =
        if next.starts < head.ends then some (.overlap (index + 1) next.starts head.ends)
        else overlap? ⟨next, index + 1⟩ (place (index + 1 + 1) more) := rfl
    rw [unfolded]
    by_cases early : next.starts < head.ends
    · rw [if_pos early]
      constructor
      · intro found
        exact ⟨[], head, next, more, rfl, List.pairwise_singleton _ _, early,
          (Option.some.inj found).symm⟩
      · rintro ⟨earlier, ahead, entry, later, here, apart, -, rfl⟩
        cases earlier with
        | nil =>
          obtain ⟨rfl, rest⟩ := List.cons.inj here
          obtain ⟨rfl, -⟩ := List.cons.inj rest
          rfl
        | cons other earlier =>
          -- the tracks up to the one ahead would not be in order
          obtain ⟨rfl, behind⟩ := List.cons.inj here
          obtain ⟨rest, front⟩ := exists_cons_eq_append behind
          have apart : Apart (head :: (earlier ++ [ahead])) := apart
          rw [front] at apart
          exact absurd early (Scalar.not_lt_of_le
            ((List.pairwise_cons.mp apart).1 next List.mem_cons_self))
    · have inTime : head.ends ≤ next.starts :=
        Scalar.le_of_not_lt (Scalar.Ordered.refl_of_isFinite nextSound.1.1)
          (Scalar.Ordered.refl_of_isFinite headSound.1.2) early
      rw [if_neg early, inductionHypothesis moreSound]
      constructor
      · rintro ⟨earlier, ahead, entry, later, here, apart, early, rfl⟩
        refine ⟨head :: earlier, ahead, entry, later, congrArg (head :: ·) here, ?_, early, ?_⟩
        · obtain ⟨rest, front⟩ := exists_cons_eq_append here
          show Apart (head :: (earlier ++ [ahead]))
          rw [front] at apart ⊢
          exact apart.cons nextSound inTime
        · rw [List.length_cons, Nat.add_comm earlier.length, ← Nat.add_assoc]
      · rintro ⟨earlier, ahead, entry, later, here, apart, entryEarly, rfl⟩
        cases earlier with
        | nil =>
          obtain ⟨rfl, rest⟩ := List.cons.inj here
          obtain ⟨rfl, -⟩ := List.cons.inj rest
          exact absurd entryEarly early
        | cons other earlier =>
          obtain ⟨rfl, behind⟩ := List.cons.inj here
          refine ⟨earlier, ahead, entry, later, behind, (List.pairwise_cons.mp apart).2, entryEarly, ?_⟩
          rw [List.length_cons, Nat.add_comm earlier.length, ← Nat.add_assoc]

/-! ### The verdict -/

omit [Scalar.Ordered α] in
theorem ofEntries_cons (head : TrackEntry α) (more : List (TrackEntry α)) :
    ofEntries (head :: more) =
      match (place 0 (head :: more)).findSome? ownFault? with
      | some fault => .error fault
      | none =>
        match overlap? ⟨head, 0⟩ (place 1 more) with
        | some fault => .error fault
        | none => .ok { first := ⟨head, 0⟩, others := place 1 more } := rfl

omit [Scalar.Ordered α] in
/-- A table holds the tracks that it was made of. -/
theorem toList_of_ofEntries {entries : List (TrackEntry α)} {table : TrackTable α}
    (accepted : ofEntries entries = .ok table) : table.toList = place 0 entries := by
  cases entries with
  | nil => cases accepted
  | cons head more =>
    rw [ofEntries_cons] at accepted
    split at accepted
    · cases accepted
    · split at accepted
      · cases accepted
      · obtain rfl := Except.ok.inj accepted
        rfl

/-- The first look finds nothing just if all tracks are sound. -/
theorem findSome?_place_eq_none_iff {index : Nat} {entries : List (TrackEntry α)} :
    (place index entries).findSome? ownFault? = none ↔ ∀ entry ∈ entries, entry.IsSound := by
  rw [List.findSome?_eq_none_iff, ← forall_mem_place]
  exact forall₂_congr fun _ _ => ownFault?_eq_none_iff

/-- A list with tracks is refused for what the first look finds, or else for what the second one does. -/
theorem ofEntries_cons_eq_error_iff {head : TrackEntry α} {more : List (TrackEntry α)}
    {fault : TableFault α} :
    ofEntries (head :: more) = .error fault ↔
      (place 0 (head :: more)).findSome? ownFault? = some fault ∨
      (∀ entry ∈ head :: more, entry.IsSound) ∧
        overlap? ⟨head, 0⟩ (place 1 more) = some fault := by
  rw [ofEntries_cons, ← @findSome?_place_eq_none_iff _ _ _ 0 (head :: more)]
  cases (place 0 (head :: more)).findSome? ownFault? with
  | some found =>
    dsimp only
    rw [Except.error.injEq, Option.some.injEq]
    simp
  | none =>
    cases overlap? ⟨head, 0⟩ (place 1 more) <;> simp

/-- A list of tracks is refused for what can be blamed on it, and for nothing else. -/
theorem ofEntries_eq_error_iff {entries : List (TrackEntry α)} {fault : TableFault α} :
    ofEntries entries = .error fault ↔ Blames entries fault := by
  cases entries with
  | nil =>
    have filled (earlier later : List (TrackEntry α)) (entry : TrackEntry α) :
        [] ≠ earlier ++ entry :: later :=
      (List.append_ne_nil_of_right_ne_nil _ (List.cons_ne_nil _ _)).symm
    constructor
    · intro refused
      obtain rfl := Except.error.inj refused
      exact .empty rfl
    · rintro (_ | ⟨here, -, -⟩ | ⟨here, -, -, -⟩ | ⟨here, -, -, -⟩)
      · rfl
      · exact absurd here (filled _ _ _)
      · exact absurd here (filled _ _ _)
      · exact absurd here (filled _ _ _)
  | cons head more =>
    rw [ofEntries_cons_eq_error_iff, findSome?_place_eq_some_iff]
    constructor
    · rintro (⟨earlier, entry, later, here, sound, own⟩ | ⟨sound, overlaps⟩)
      · rw [Nat.zero_add] at own
        rcases ownFault?_eq_some_iff.mp own with ⟨endless, rfl⟩ | ⟨finite, back, rfl⟩
        · exact .notFinite here sound endless
        · exact .inverted here sound finite back
      · obtain ⟨earlier, ahead, entry, later, here, apart, early, rfl⟩ :=
          (overlap?_place_eq_some_iff sound).mp overlaps
        rw [Nat.zero_add]
        exact .overlap here sound apart early
    · rintro (none | ⟨here, sound, endless⟩ | ⟨here, sound, finite, back⟩ |
        ⟨here, sound, apart, early⟩)
      · cases none
      · exact Or.inl ⟨_, _, _, here, sound, ownFault?_eq_some_iff.mpr
          (Or.inl ⟨endless, by rw [Nat.zero_add]⟩)⟩
      · exact Or.inl ⟨_, _, _, here, sound, ownFault?_eq_some_iff.mpr
          (Or.inr ⟨finite, back, by rw [Nat.zero_add]⟩)⟩
      · exact Or.inr ⟨sound, (overlap?_place_eq_some_iff sound).mpr
          ⟨_, _, _, _, here, apart, early, by rw [Nat.zero_add]⟩⟩

/-- Nothing can be blamed on tracks that are sound and in order. -/
theorem Blames.unfit {entries : List (TrackEntry α)} {fault : TableFault α}
    (blames : Blames entries fault) (filled : entries ≠ [])
    (sound : ∀ entry ∈ entries, entry.IsSound) : ¬ Apart entries := by
  intro apart
  cases blames with
  | empty none => exact filled none
  | notFinite here _ endless =>
    subst here
    exact endless (sound _ (List.mem_append_right _ List.mem_cons_self)).1
  | inverted here _ _ back =>
    subst here
    exact Scalar.not_lt_of_le (sound _ (List.mem_append_right _ List.mem_cons_self)).2 back
  | overlap here _ _ early =>
    subst here
    have behind := (List.pairwise_append.mp apart).2.1
    exact Scalar.not_lt_of_le ((List.pairwise_cons.mp behind).1 _ List.mem_cons_self) early

/-- A list of tracks becomes a table just if it has tracks, each of them is sound, and none starts
before any of those ahead of it ends; the table holds the same tracks in their order, each in its
place. What any other list is refused for is what can be blamed on it. -/
theorem ofEntries_verdict (entries : List (TrackEntry α)) :
    ((∃ table, ofEntries entries = .ok table) ↔
      entries ≠ [] ∧ (∀ entry ∈ entries, entry.IsSound) ∧ Apart entries) ∧
    (∀ table, ofEntries entries = .ok table →
      table.toList.map Track.toTrackEntry = entries ∧
        ∀ place track, table.get? place = some track → track.index = place) ∧
    ∀ fault, ofEntries entries = .error fault ↔ Blames entries fault := by
  refine ⟨⟨?_, ?_⟩, ?_, fun fault => ofEntries_eq_error_iff⟩
  · rintro ⟨table, accepted⟩
    have inOrder := inOrder_of_ofEntries accepted
    have listed := toList_of_ofEntries accepted
    refine ⟨?_, ?_, ?_⟩
    · rintro rfl
      cases accepted
    · have sound : ∀ track ∈ place 0 entries, track.toTrackEntry.IsSound := by
        intro track member
        rw [← listed] at member
        exact ⟨inOrder.finite member, inOrder.forward member⟩
      exact forall_mem_place.mp sound
    · have apart := inOrder.apart
      rw [listed] at apart
      exact pairwise_place.mp apart
  · rintro ⟨filled, sound, apart⟩
    cases verdict : ofEntries entries with
    | ok table => exact ⟨table, rfl⟩
    | error fault => exact absurd apart ((ofEntries_eq_error_iff.mp verdict).unfit filled sound)
  · intro table accepted
    refine ⟨?_, fun place track found => (inOrder_of_ofEntries accepted).index found⟩
    rw [toList_of_ofEntries accepted, map_place]

/-- Three tracks, of which the second one starts too early and the third one ends before it starts. -/
def tangled : List (TrackEntry Float) :=
  [⟨"dawn", "Dawn", "", 0.0, 10.0⟩, ⟨"chime", "Chime", "", 5.0, 5.0⟩,
    ⟨"dusk", "Dusk", "", 30.0, 20.0⟩]

/-- A track that is bad in itself is blamed before an overlap ahead of it; without it, the overlap
is. -/
theorem inversion_blamed_before_overlap :
    Blames tangled (.inverted 2 30.0 20.0) ∧ ofEntries tangled = .error (.inverted 2 30.0 20.0) ∧
      Blames (tangled.take 2) (.overlap 1 5.0 10.0) ∧
      ofEntries (tangled.take 2) = .error (.overlap 1 5.0 10.0) := by
  have sound : ∀ entry ∈ tangled.take 2, entry.IsSound := by decide +kernel
  have finite : (⟨"dusk", "Dusk", "", 30.0, 20.0⟩ : TrackEntry Float).IsFinite := by decide +kernel
  have last : tangled = tangled.take 2 ++ [⟨"dusk", "Dusk", "", 30.0, 20.0⟩] := rfl
  have pair : tangled.take 2 =
      [] ++ [⟨"dawn", "Dawn", "", 0.0, 10.0⟩, ⟨"chime", "Chime", "", 5.0, 5.0⟩] := rfl
  have inverted : Blames tangled (.inverted 2 30.0 20.0) :=
    .inverted last sound finite (by decide +kernel)
  have overlap : Blames (tangled.take 2) (.overlap 1 5.0 10.0) :=
    .overlap pair sound (List.pairwise_singleton _ _) (by decide +kernel)
  exact ⟨inverted, ((ofEntries_verdict tangled).2.2 _).mpr inverted, overlap,
    ((ofEntries_verdict (tangled.take 2)).2.2 _).mpr overlap⟩

end TrackTable

end ReleasePlayer
