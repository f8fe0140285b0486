/-
This file says when the buttons that skip lead anywhere. They move the stream to the start of a
neighbouring track, and where the player is then is found out by looking for the track to which that
time belongs. It belongs to the neighbour if there is anything of the neighbour to play. The start of a
track without length may belong to a later track, and then the way forward leads there and the way back
leads nowhere; or it may belong to none, and then the player stays in its track.
-/

import ReleasePlayer.Proofs.Player.CurrentTrack
import ReleasePlayer.Proofs.TrackTable.Search

namespace ReleasePlayer

/-! ### Where the start of a track belongs -/

namespace TrackTable

variable {α : Type} [Scalar α] [Scalar.Ordered α] {table : TrackTable α} {track other : Track α}

/-- The start of a track belongs to the track itself if the track has length or is the last one. -/
theorem InOrder.trackAt?_starts (inOrder : InOrder table)
    (placed : table.get? track.index = some track)
    (playable : track.starts < track.ends ∨ track.index = table.lastIndex) :
    table.trackAt? track.starts = some track := by
  have forward := inOrder.forward (mem_of_get? placed)
  have started := Scalar.Ordered.refl_left forward
  rcases playable with positive | last
  · exact trackAt?_of_covers inOrder placed started positive
  · rw [last] at placed
    exact trackAt?_of_last inOrder placed started forward

/-- A time belongs to no other tracks than those that have length and the last one. -/
theorem InOrder.playable_of_trackAt? (inOrder : InOrder table) {time : α}
    (found : table.trackAt? time = some track) :
    track.starts < track.ends ∨ track.index = table.lastIndex := by
  obtain ⟨-, ⟨started, notEnded⟩ | ⟨-, isLast⟩⟩ := inOrder.trackAt?_eq_some_iff.mp found
  · have forward := Scalar.Ordered.le_trans started (Scalar.le_of_lt notEnded)
    refine Or.inl (Scalar.Ordered.lt_iff.mpr ⟨forward, fun back => ?_⟩)
    exact Scalar.not_lt_of_le (Scalar.Ordered.le_trans back started) notEnded
  · exact Or.inr isLast

/-- The start of a track belongs to no track ahead of it. -/
theorem InOrder.index_le_of_starts (inOrder : InOrder table)
    (placed : table.get? track.index = some track)
    (found : table.trackAt? track.starts = some other) : track.index ≤ other.index := by
  by_contra ahead
  have ahead : other.index < track.index := Nat.lt_of_not_le ahead
  obtain ⟨otherPlaced, ⟨-, notEnded⟩ | ⟨-, isLast⟩⟩ := inOrder.trackAt?_eq_some_iff.mp found
  · exact Scalar.not_lt_of_le (inOrder.ends_le_starts placed otherPlaced ahead) notEnded
  · rw [isLast] at ahead
    exact Nat.not_lt_of_le (le_lastIndex_of_get? placed) ahead

/-- The start of a track belongs to no track past one behind it of which there is anything to play. -/
theorem InOrder.index_le_of_playable (inOrder : InOrder table)
    (placed : table.get? track.index = some track) {next : Track α}
    (nextPlaced : table.get? next.index = some next) (behind : track.index < next.index)
    (playable : next.starts < next.ends ∨ next.index = table.lastIndex)
    (found : table.trackAt? track.starts = some other) : other.index ≤ next.index := by
  by_contra past
  have past : next.index < other.index := Nat.lt_of_not_le past
  have otherPlaced := (inOrder.trackAt?_eq_some_iff.mp found).1
  rcases playable with positive | last
  · -- the next track would lie between the start of the one and the start of the other
    have back : next.ends ≤ track.starts :=
      Scalar.Ordered.le_trans (inOrder.ends_le_starts otherPlaced nextPlaced past)
        (inOrder.starts_le_of_trackAt? found)
    have forward := inOrder.forward (mem_of_get? placed)
    have ahead : track.ends ≤ next.starts := inOrder.ends_le_starts nextPlaced placed behind
    exact Scalar.not_lt_of_le (Scalar.Ordered.le_trans back
      (Scalar.Ordered.le_trans forward ahead)) positive
  · rw [last] at past
    exact Nat.not_lt_of_le (le_lastIndex_of_get? otherPlaced) past

end TrackTable

namespace Player

/-! ### Where a player can be -/

section Placed

variable {α T G S F : Type} [Scalar α] [Transport α T] {table : TrackTable α}

/-- The player is in the first track of a table, or in one to which some time belongs. -/
structure Placed (table : TrackTable α) (player : Player α T G S F) : Prop where
  sameTable : player.table = table
  current : player.follower.current = 0 ∨
    ∃ time track, table.trackAt? time = some track ∧ player.follower.current = track.index

theorem Placed.followStream {player : Player α T G S F} (placed : Placed table player) :
    Placed table player.followStream := by
  obtain ⟨effects, log, followed⟩ := player.followStream_eq
  have sameTable : player.followStream.table = table := by
    rw [followed]
    exact placed.sameTable
  cases covered : player.table.trackAt? player.stream.position with
  | none =>
    rw [followStream_of_unchanged (Follower.observe_of_uncovered covered)]
    exact placed
  | some track =>
    have belongs : table.trackAt? player.stream.position = some track := by
      rw [← placed.sameTable]
      exact covered
    exact ⟨sameTable, Or.inr ⟨_, track, belongs, current_followStream covered⟩⟩

theorem Placed.step {before after : Player α T G S F} (step : Step before after)
    (placed : Placed table before) : Placed table after := by
  cases step with
  | follow => exact placed.followStream
  | setOpen index isOpen =>
    refine ⟨placed.sameTable, ?_⟩
    rcases before.follower.setOpen_eq index isOpen with noted | unchanged
    · rw [noted]
      exact placed.current
    · rw [unchanged]
      exact placed.current
  | _ => exact ⟨placed.sameTable, placed.current⟩

/-- However a player came to be where it is, it is in the first track or in one that has a time. -/
theorem Placed.takeAll [GainStage α G] [PreferenceStore S] [FrameSource F]
    {player : Player α T G S F} (placed : Placed table player) (inputs : List (Input α T)) :
    Placed table (player.takeAll inputs) := by
  refine (player.reactions_takeAll inputs).keep (Placed table) Placed.step ?_ ?_ placed
  · intro before after sounding placed
    cases sounding <;> exact ⟨placed.sameTable, placed.current⟩
  · intro before after signal placed
    cases signal <;> exact ⟨placed.sameTable, placed.current⟩

variable [Scalar.Ordered α] {player : Player α T G S F}

omit [Transport α T] in
theorem Placed.playable (inOrder : table.InOrder) (placed : Placed table player)
    (moved : player.follower.current ≠ 0) : ∃ track,
      table.get? track.index = some track ∧ track.index = player.follower.current ∧
        (track.starts < track.ends ∨ track.index = table.lastIndex) := by
  rcases placed.current with first | ⟨time, track, found, current⟩
  · exact absurd first moved
  · exact ⟨track, (inOrder.trackAt?_eq_some_iff.mp found).1, current.symm,
      inOrder.playable_of_trackAt? found⟩

omit [Transport α T] in
theorem Placed.within (inOrder : table.InOrder) (placed : Placed table player) :
    player.follower.current ≤ table.lastIndex := by
  by_cases first : player.follower.current = 0
  · rw [first]
    exact Nat.zero_le _
  · obtain ⟨track, found, current, -⟩ := placed.playable inOrder first
    rw [← current]
    exact TrackTable.le_lastIndex_of_get? found

end Placed

/-! ### Going to a track -/

section Skip

variable {α T G S F : Type} [Scalar α] [Transport α T] {table : TrackTable α}

/-- A player whose stream reaches from before the first track of a table to past the last one. -/
structure Roams (table : TrackTable α) (player : Player α T G S F) : Prop where
  placed : Placed table player
  inOrder : table.InOrder
  nonneg : ∀ track ∈ table.toList, (0.0 : α) ≤ track.starts
  long : ∀ duration, player.stream.duration = some duration → table.last.ends ≤ duration

variable [Scalar.Ordered α] [Transport.Seekable α T] {player : Player α T G S F}

/-- The player goes to the track to which the start of the wanted one belongs, and stays if there is
none. -/
theorem Roams.goTo (roams : Roams table player) {index : Nat} {track : Track α}
    (wanted : table.get? index = some track) :
    Roams table (player.goTo index) ∧ (player.goTo index).follower.current =
      ((table.trackAt? track.starts).map Track.index).getD player.follower.current := by
  have member := TrackTable.mem_of_get? wanted
  have within : ∀ duration, player.stream.duration = some duration → track.starts ≤ duration :=
    fun duration known => Scalar.Ordered.le_trans (roams.inOrder.forward member)
      (Scalar.Ordered.le_trans (TrackTable.ends_le_last roams.inOrder wanted)
        (roams.long duration known))
  obtain ⟨transport, landed, position, sought⟩ :=
    Stream.seek_of_within (roams.inOrder.finite member).1 (roams.nonneg track member) within
  have moved : player.seek track.starts = { player with stream.transport := transport } :=
    seek_of_silent sought
  have gone : player.goTo index =
      ({ player with stream.transport := transport } : Player α T G S F).updateTime := by
    have listed : player.table.get? index = some track := by
      rw [roams.placed.sameTable]
      exact wanted
    unfold Player.goTo
    rw [listed]
    exact congrArg Player.updateTime moved
  have place : (Stream.position { player.stream with transport } : α) = track.starts := position
  have current : (player.goTo index).follower.current =
      ((table.trackAt? track.starts).map Track.index).getD player.follower.current := by
    rw [gone, ← roams.placed.sameTable]
    cases covered : player.table.trackAt? track.starts with
    | none =>
      rw [updateTime_of_uncovered (by dsimp only; rw [place]; exact covered)]
      rfl
    | some reached =>
      refine (updateTime_tells ?_ []).1
      dsimp only
      rw [place]
      exact covered
  refine ⟨⟨⟨?_, ?_⟩, roams.inOrder, roams.nonneg, ?_⟩, current⟩
  · rw [gone, table_updateTime]
    exact roams.placed.sameTable
  · rw [current]
    cases covered : table.trackAt? track.starts with
    | none => exact roams.placed.current
    | some reached => exact Or.inr ⟨_, reached, covered, rfl⟩
  · rw [gone, stream_updateTime]
    intro duration known
    exact roams.long duration ((Transport.Seekable.duration_moved landed).symm.trans known)

/-! ### One press of a button -/

/-- If the start of the next track belongs to any track, the player goes on, and otherwise it stays. -/
theorem Roams.skipNext (roams : Roams table player) {next : Track α}
    (wanted : table.get? (player.follower.current + 1) = some next) :
    Roams table player.skipNext ∧
      (table.trackAt? next.starts ≠ none →
        player.follower.current < player.skipNext.follower.current) ∧
      (table.trackAt? next.starts = none →
        player.skipNext.follower.current = player.follower.current) := by
  have before : ¬ player.table.lastIndex ≤ player.follower.current := by
    rw [roams.placed.sameTable]
    exact Nat.not_le_of_lt (TrackTable.le_lastIndex_of_get? wanted)
  have gone : player.skipNext = player.goTo (player.follower.current + 1) := if_neg before
  obtain ⟨roamsOn, current⟩ := roams.goTo wanted
  rw [gone, current]
  refine ⟨roamsOn, fun somewhere => ?_, fun nowhere => ?_⟩
  · obtain ⟨reached, found⟩ := Option.ne_none_iff_exists'.mp somewhere
    have index := roams.inOrder.index wanted
    have placed := roams.inOrder.get?_index (TrackTable.mem_of_get? wanted)
    rw [found]
    show player.follower.current < reached.index
    have notAhead := roams.inOrder.index_le_of_starts placed found
    rw [index] at notAhead
    exact notAhead
  · rw [nowhere]
    rfl

/-- If the previous track has length, the player goes there, and otherwise it stays. -/
theorem Roams.skipPrevious (roams : Roams table player) (moved : player.follower.current ≠ 0)
    {previous : Track α} (wanted : table.get? (player.follower.current - 1) = some previous) :
    Roams table player.skipPrevious ∧
      (previous.starts < previous.ends →
        player.skipPrevious.follower.current = player.follower.current - 1) ∧
      (¬ previous.starts < previous.ends →
        player.skipPrevious.follower.current = player.follower.current) := by
  have gone : player.skipPrevious = player.goTo (player.follower.current - 1) := if_neg moved
  have index := roams.inOrder.index wanted
  have placed := roams.inOrder.get?_index (TrackTable.mem_of_get? wanted)
  obtain ⟨here, herePlaced, hereCurrent, playable⟩ := roams.placed.playable roams.inOrder moved
  obtain ⟨roamsOn, current⟩ := roams.goTo wanted
  rw [gone, current]
  refine ⟨roamsOn, fun positive => ?_, fun empty => ?_⟩
  · rw [roams.inOrder.trackAt?_starts placed (Or.inl positive)]
    exact index
  · cases found : table.trackAt? previous.starts with
    | none => rfl
    | some reached =>
      show reached.index = player.follower.current
      have behind : previous.index < here.index := by omega
      have notPast := roams.inOrder.index_le_of_playable placed herePlaced behind playable found
      have notAhead := roams.inOrder.index_le_of_starts placed found
      -- the start of a track without length is not its own, for the last track is behind it
      have other : reached.index ≠ previous.index := by
        intro same
        have last := TrackTable.le_lastIndex_of_get? herePlaced
        have reachedPlaced := (roams.inOrder.trackAt?_eq_some_iff.mp found).1
        rw [same, placed] at reachedPlaced
        obtain rfl := Option.some.inj reachedPlaced
        rcases roams.inOrder.playable_of_trackAt? found with positive | isLast
        · exact empty positive
        · omega
      omega

/-! ### Pressing a button again and again -/

theorem Roams.skipNext_reaches (roams : Roams table player)
    (somewhere : ∀ track ∈ table.toList, player.follower.current < track.index →
      table.trackAt? track.starts ≠ none) :
    ∃ presses ≤ table.lastIndex - player.follower.current,
      (Player.skipNext^[presses] player).follower.current = table.lastIndex := by
  generalize distance : table.lastIndex - player.follower.current = left
  induction left using Nat.strongRecOn generalizing player with
  | ind left inductionHypothesis =>
    have within := roams.placed.within roams.inOrder
    rcases Nat.lt_or_eq_of_le within with before | atLast
    · obtain ⟨next, wanted⟩ := TrackTable.exists_get? before
      have index := roams.inOrder.index wanted
      obtain ⟨roamsOn, forward, -⟩ := roams.skipNext wanted
      have further := forward (somewhere next (TrackTable.mem_of_get? wanted) (by omega))
      have remaining : ∀ track ∈ table.toList,
          player.skipNext.follower.current < track.index → table.trackAt? track.starts ≠ none :=
        fun track member ahead => somewhere track member (Nat.lt_trans further ahead)
      obtain ⟨presses, few, reached⟩ :=
        inductionHypothesis _ (by omega) roamsOn remaining rfl
      exact ⟨presses + 1, by omega, reached⟩
    · exact ⟨0, Nat.zero_le _, atLast⟩

theorem Roams.skipPrevious_reaches (roams : Roams table player)
    (positive : ∀ track ∈ table.toList, track.index < player.follower.current →
      track.starts < track.ends) :
    (Player.skipPrevious^[player.follower.current] player).follower.current = 0 := by
  generalize distance : player.follower.current = left
  induction left generalizing player with
  | zero => exact distance
  | succ left inductionHypothesis =>
    have within := roams.placed.within roams.inOrder
    obtain ⟨previous, wanted⟩ := TrackTable.exists_get? (Nat.le_trans (Nat.sub_le _ 1) within)
    have index := roams.inOrder.index wanted
    obtain ⟨roamsOn, back, -⟩ := roams.skipPrevious (by omega) wanted
    have arrived := back (positive previous (TrackTable.mem_of_get? wanted) (by omega))
    have remaining : ∀ track ∈ table.toList,
        track.index < player.skipPrevious.follower.current → track.starts < track.ends :=
      fun track member ahead => positive track member (by omega)
    exact inductionHypothesis roamsOn remaining (by omega)

section Reached

variable [GainStage α G] [PreferenceStore S] [FrameSource F] {config : Config α} {transport : T}
  {output : G} {store : S} {frames : F}

omit [Transport.Seekable α T] in
theorem roams_of_new (setUp : new config transport output store frames = .ok player)
    (inputs : List (Input α T))
    (nonneg : ∀ track ∈ player.table.toList, (0.0 : α) ≤ track.starts)
    (long : ∀ duration, (player.takeAll inputs).stream.duration = some duration →
      player.table.last.ends ≤ duration) :
    Roams player.table (player.takeAll inputs) := by
  have isNew := isNew_of_new setUp
  have placed : Placed player.table player := by
    refine ⟨rfl, Or.inl ?_⟩
    rw [isNew.follower]
    rfl
  exact ⟨placed.takeAll inputs, TrackTable.inOrder_of_ofEntries isNew.table, nonneg, long⟩

/-- Wherever a player got to, the button that skips forward leads past the current track just if the
start of the next one belongs to a track, and the one that skips back leads before it just if the
previous track has length; otherwise they lead nowhere. So the last track is reached if the starts of
all later ones belong to tracks, and the first one is reached if all earlier ones have length. -/
theorem skip_makes_progress (setUp : new config transport output store frames = .ok player)
    (inputs : List (Input α T))
    (nonneg : ∀ track ∈ player.table.toList, (0.0 : α) ≤ track.starts)
    (long : ∀ duration, (player.takeAll inputs).stream.duration = some duration →
      player.table.last.ends ≤ duration) :
    let reached := player.takeAll inputs
    let current := reached.follower.current
    (∀ track ∈ player.table.toList,
      track.starts < track.ends ∨ track.index = player.table.lastIndex →
        player.table.trackAt? track.starts ≠ none) ∧
    (∀ next, player.table.get? (current + 1) = some next →
      (player.table.trackAt? next.starts ≠ none → current < reached.skipNext.follower.current) ∧
      (player.table.trackAt? next.starts = none →
        reached.skipNext.follower.current = current)) ∧
    (∀ previous, current ≠ 0 → player.table.get? (current - 1) = some previous →
      (previous.starts < previous.ends → reached.skipPrevious.follower.current < current) ∧
      (¬ previous.starts < previous.ends → reached.skipPrevious.follower.current = current)) ∧
    ((∀ track ∈ player.table.toList, current < track.index →
        player.table.trackAt? track.starts ≠ none) →
      ∃ presses ≤ player.table.lastIndex - current,
        (Player.skipNext^[presses] reached).follower.current = player.table.lastIndex) ∧
    ((∀ track ∈ player.table.toList, track.index < current → track.starts < track.ends) →
      (Player.skipPrevious^[current] reached).follower.current = 0) := by
  intro reached current
  have roams := roams_of_new setUp inputs nonneg long
  refine ⟨fun track member playable => ?_, fun next wanted => (roams.skipNext wanted).2,
    fun previous moved wanted => ?_, roams.skipNext_reaches, roams.skipPrevious_reaches⟩
  · rw [roams.inOrder.trackAt?_starts (roams.inOrder.get?_index member) playable]
    exact Option.some_ne_none track
  · obtain ⟨-, back, stays⟩ := roams.skipPrevious moved wanted
    refine ⟨fun positive => ?_, stays⟩
    rw [back positive]
    exact Nat.sub_lt (Nat.pos_of_ne_zero moved) Nat.one_pos

end Reached

end Skip

end Player

/-! ### A release with a track without length -/

namespace Touching

open InMemory Player

/-- Three tracks without gaps, of which the second one has no length. -/
def config : Config ℚ :=
  { OneTrack.config none with
    tracks := [⟨"dawn", "Dawn", "", 0, 10⟩, ⟨"chime", "Chime", "", 10, 10⟩,
      ⟨"dusk", "Dusk", "", 10, 20⟩] }

/-- The player of the release, in memory, on an amplified output. -/
def setUp : Except (SetupError ℚ) (Player ℚ (Deck ℚ) (Gain ℚ) Store Frames) :=
  Player.new config (Deck.withDuration (some 20)) (Gain.ofHeadroom .amplified)
    (Store.ofEntries [] false) (Frames.fresh false)

/-- The stream is attached. -/
def attached : List (Input ℚ (Deck ℚ)) :=
  [.command (.attach (some ⟨"opus", "audio/ogg"⟩) TwoTracks.endpoint)]

/-- From the first track the way forward leads past the second one, to the last. -/
theorem skip_passes_chime :
    ∃ player, setUp = .ok player ∧
      let reached := player.takeAll attached
      reached.follower.current = 0 ∧ player.table.lastIndex = 2 ∧
        0 < reached.skipNext.follower.current ∧
        ∃ presses ≤ 2, (Player.skipNext^[presses] reached).follower.current = 2 := by
  obtain ⟨player, made, checked⟩ := exists_of_any setUp (fun player =>
    decide ((∀ track ∈ player.table.toList, (0.0 : ℚ) ≤ track.starts) ∧
      (player.takeAll attached).stream.duration = some player.table.last.ends ∧
      (player.takeAll attached).follower.current = 0 ∧ player.table.lastIndex = 2 ∧
      (∀ track ∈ player.table.toList, player.table.trackAt? track.starts ≠ none)))
    (by decide +kernel)
  obtain ⟨nonneg, length, first, last, somewhere⟩ := of_decide_eq_true checked
  have long : ∀ duration, (player.takeAll attached).stream.duration = some duration →
      player.table.last.ends ≤ duration := by
    intro duration known
    exact (Option.some.inj (length.symm.trans known)).le
  obtain ⟨-, forward, -, reaches, -⟩ := skip_makes_progress made attached nonneg long
  rw [first] at forward reaches
  rw [last] at reaches
  have second : 1 ≤ player.table.lastIndex := by omega
  obtain ⟨next, wanted⟩ := TrackTable.exists_get? second
  exact ⟨player, made, first, last,
    (forward next wanted).1 (somewhere next (TrackTable.mem_of_get? wanted)),
    reaches fun track member _ => somewhere track member⟩

end Touching

namespace Gapped

open InMemory

/-- The stream is attached, and the listener goes to the last track. -/
def toDusk : List (Input ℚ (Deck ℚ)) :=
  Touching.attached ++ [.command (.trackButton "dusk")]

/-- No position lies on the second track, nor right behind it. From the first track the way forward
does not lead on, and from the last one the way back does not lead back. -/
theorem skip_stalls_at_chime :
    ∃ player, setUp = .ok player ∧ (∀ track ∈ player.table.toList, (0.0 : ℚ) ≤ track.starts) ∧
      player.table.lastIndex = 2 ∧
      let first := player.takeAll Touching.attached
      let last := player.takeAll toDusk
      (first.stream.duration = some player.table.last.ends ∧ first.follower.current = 0 ∧
        first.skipNext.follower.current = 0) ∧
      last.stream.duration = some player.table.last.ends ∧ last.follower.current = 2 ∧
        last.skipPrevious.follower.current = 2 := by
  obtain ⟨player, made, checked⟩ := Player.exists_of_any setUp (fun player =>
    decide ((∀ track ∈ player.table.toList, (0.0 : ℚ) ≤ track.starts) ∧
      player.table.lastIndex = 2 ∧
      ((player.takeAll Touching.attached).stream.duration = some player.table.last.ends ∧
        (player.takeAll Touching.attached).follower.current = 0 ∧
        (player.takeAll Touching.attached).skipNext.follower.current = 0) ∧
      (player.takeAll toDusk).stream.duration = some player.table.last.ends ∧
        (player.takeAll toDusk).follower.current = 2 ∧
        (player.takeAll toDusk).skipPrevious.follower.current = 2)) (by decide +kernel)
  exact ⟨player, made, of_decide_eq_true checked⟩

end Gapped

end ReleasePlayer
