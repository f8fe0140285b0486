/-
This file proves what a drag along the seek bar does to the current track. The bar stands for the
track that the player is in, and the player is in the track to which the position of the stream
belongs, so each move of the pointer is understood by what the move before it did. As long as the
pointer takes the stream to times of the track, this comes to nothing: the track stays, and the
position depends on the last place of the pointer alone. The end of a track is not one of its times
if another track starts there, so at the right end of the bar the player goes on to that track. If a
gap follows, the end belongs to no track, and the player stays.
-/

import ReleasePlayer.Proofs.Bar
import ReleasePlayer.Proofs.Double.Arithmetic
import ReleasePlayer.Proofs.Follower.Lyrics
import ReleasePlayer.Proofs.Player.Command
import ReleasePlayer.Proofs.Player.Setup
import ReleasePlayer.Proofs.Stream
import ReleasePlayer.Proofs.TrackTable.Search

namespace ReleasePlayer

/-! ### Times of a track -/

namespace Track

variable {α : Type} [Scalar α]

/-- The time of a track at a place of the pointer on the seek bar. -/
def timeUnder (track : Track α) (bar : Bar α) (x : α) : α := track.timeAt (bar.across x)

/-- In exact arithmetic it is the start and the passed part of the length. -/
theorem timeUnder_eq {K : Type} [Exact K] (track : Track K) (bar : Bar K) (x : K) :
    track.timeUnder bar x =
      track.starts + passed bar.left bar.width x * (track.ends - track.starts) := by
  unfold timeUnder timeAt length
  rw [Exact.clampUnit_eq, bar.across_eq, min_eq_right passed_le_one, max_eq_right passed_nonneg,
    mul_comm]

/-- A time that can be compared lies in a track from its start on, wherever the pointer is. -/
theorem starts_le_timeAt [Scalar.Rounded α] {track : Track α}
    (finite : Scalar.isFinite track.starts = true ∧ Scalar.isFinite track.ends = true)
    (forward : track.starts ≤ track.ends) (nonneg : (0.0 : α) ≤ track.starts) {fraction : α}
    (ordinary : track.timeAt fraction ≤ track.timeAt fraction) :
    track.starts ≤ track.timeAt fraction := by
  have length : (0.0 : α) ≤ track.length := Scalar.Rounded.sub_nonneg finite.2 nonneg forward
  have part : (0.0 : α) ≤ track.length * Scalar.clampUnit fraction :=
    Scalar.Rounded.mul_nonneg length (Scalar.clampUnit_nonneg fraction)
      (Scalar.Rounded.refl_of_add ordinary)
  exact Scalar.Rounded.le_add finite.1 nonneg part

/-- In exact arithmetic all of the bar but its right end stands for times before the end. -/
theorem timeUnder_lt_ends_iff {K : Type} [Exact K] {track : Track K}
    (positive : track.starts < track.ends) (bar : Bar K) (x : K) :
    track.timeUnder bar x < track.ends ↔ passed bar.left bar.width x < 1 := by
  have length : 0 < track.ends - track.starts := sub_pos.mpr positive
  rw [timeUnder_eq, ← lt_sub_iff_add_lt', mul_lt_iff_lt_one_left length]

theorem timeUnder_le_ends {K : Type} [Exact K] {track : Track K}
    (positive : track.starts < track.ends) (bar : Bar K) (x : K) :
    track.timeUnder bar x ≤ track.ends := by
  have length : 0 < track.ends - track.starts := sub_pos.mpr positive
  rw [timeUnder_eq, ← le_sub_iff_add_le', mul_le_iff_le_one_left length]
  exact passed_le_one

end Track

namespace TrackTable

section Times

variable {α : Type} [Scalar α]

/-- Whether all tracks behind a track start later than it ends: it is the last one, or a gap follows. -/
def EndsAlone (table : TrackTable α) (track : Track α) : Prop :=
  ∀ other ∈ table.toList, track.index < other.index → track.ends < other.starts

/-- Whether a time is one of a track and of no track behind it: before its end, or at its very end if
nothing starts there. -/
def Owns (table : TrackTable α) (track : Track α) (time : α) : Prop :=
  time < track.ends ∨ table.EndsAlone track ∧ time ≤ track.ends

instance (table : TrackTable α) (track : Track α) : Decidable (table.EndsAlone track) :=
  inferInstanceAs (Decidable (∀ _ ∈ _, _))

instance (table : TrackTable α) (track : Track α) (time : α) : Decidable (table.Owns track time) :=
  inferInstanceAs (Decidable (_ ∨ _))

theorem InOrder.endsAlone_of_last {table : TrackTable α} (inOrder : table.InOrder) {track : Track α}
    (last : track.index = table.lastIndex) : table.EndsAlone track := by
  intro other member behind
  have within := le_lastIndex_of_get? (inOrder.get?_index member)
  rw [last] at behind
  exact absurd within (Nat.not_le_of_lt behind)

variable [Scalar.Ordered α] {table : TrackTable α} {track : Track α} {time : α}

theorem Owns.le_ends (owns : table.Owns track time) : time ≤ track.ends := by
  rcases owns with before | ⟨-, notPast⟩
  · exact Scalar.le_of_lt before
  · exact notPast

/-- A time that a track owns, and that is not before it, belongs to no other track. -/
theorem InOrder.eq_of_owns (inOrder : table.InOrder) (placed : table.get? track.index = some track)
    (started : track.starts ≤ time) (owns : table.Owns track time) {other : Track α}
    (found : table.trackAt? time = some other) : other = track := by
  obtain ⟨otherPlaced, within⟩ := inOrder.trackAt?_eq_some_iff.mp found
  rcases Nat.lt_trichotomy other.index track.index with ahead | same | behind
  · -- the other track has ended by then, and it is not the last one
    rcases within with ⟨-, notEnded⟩ | ⟨-, last⟩
    · have ended := inOrder.ends_le_starts placed otherPlaced ahead
      exact absurd notEnded (Scalar.not_lt_of_le (Scalar.Ordered.le_trans ended started))
    · rw [last] at ahead
      exact absurd (le_lastIndex_of_get? placed) (Nat.not_le_of_lt ahead)
  · rw [same, placed] at otherPlaced
    exact (Option.some.inj otherPlaced).symm
  · have reached := inOrder.starts_le_of_trackAt? found
    rcases owns with before | ⟨alone, notPast⟩
    · have ended := inOrder.ends_le_starts otherPlaced placed behind
      exact absurd before (Scalar.not_lt_of_le (Scalar.Ordered.le_trans ended reached))
    · have later := alone other (mem_of_get? otherPlaced) behind
      exact absurd later (Scalar.not_lt_of_le (Scalar.Ordered.le_trans reached notPast))

end Times

/-- In exact arithmetic all of the bar but its right end takes the stream to times of the track, and
all of it does if nothing starts where the track ends. -/
theorem owns_timeUnder_iff {K : Type} [Exact K] {table : TrackTable K} {track : Track K}
    (positive : track.starts < track.ends) (bar : Bar K) (x : K) :
    table.Owns track (track.timeUnder bar x) ↔
      passed bar.left bar.width x < 1 ∨ table.EndsAlone track := by
  unfold Owns
  rw [Track.timeUnder_lt_ends_iff positive, and_iff_left (Track.timeUnder_le_ends positive bar x)]

end TrackTable

/-! ### Holding the seek bar -/

namespace Player

variable {α T G S F : Type} [Scalar α] [Transport α T]

/-- The player is in a track that starts no earlier than the stream and ends no later. -/
structure IsIn (player : Player α T G S F) (track : Track α) : Prop where
  inOrder : player.table.InOrder
  current : player.table.get? player.follower.current = some track
  nonneg : (0.0 : α) ≤ track.starts
  long : ∀ duration, player.stream.duration = some duration → track.ends ≤ duration

/-- A player whose drag took its stream to where the pointer is, and who is otherwise the same. -/
structure HeldAt (held player : Player α T G S F) (track : Track α) (bar : Bar α) (x : α) :
    Prop where
  landed : Transport.moveTo held.stream.transport (track.timeUnder bar x) =
    some player.stream.transport
  position : player.stream.position = track.timeUnder bar x
  same : ∃ effects log, player = { held with
    stream.transport := player.stream.transport, effects := effects, log := log }

variable {held player : Player α T G S F} {track : Track α} {bar : Bar α} {x : α}

theorem HeldAt.table (heldAt : HeldAt held player track bar x) : player.table = held.table := by
  obtain ⟨effects, log, same⟩ := heldAt.same
  rw [same]

theorem HeldAt.follower (heldAt : HeldAt held player track bar x) :
    player.follower = held.follower := by
  obtain ⟨effects, log, same⟩ := heldAt.same
  rw [same]

theorem HeldAt.drag (heldAt : HeldAt held player track bar x) : player.drag = held.drag := by
  obtain ⟨effects, log, same⟩ := heldAt.same
  rw [same]

/-- What the drag did does not show in the stream but for its position. -/
theorem HeldAt.stream_eq {other : Player α T G S F} (heldAt : HeldAt held player track bar x)
    (also : HeldAt held other track bar x) : player.stream = other.stream := by
  obtain ⟨effects, log, same⟩ := heldAt.same
  obtain ⟨otherEffects, otherLog, otherSame⟩ := also.same
  have transport : player.stream.transport = other.stream.transport :=
    Option.some.inj (heldAt.landed.symm.trans also.landed)
  rw [same, otherSame, transport]

theorem HeldAt.isIn [Transport.Seekable α T] (heldAt : HeldAt held player track bar x)
    (isIn : IsIn held track) : IsIn player track := by
  have duration : player.stream.duration = held.stream.duration :=
    Transport.Seekable.duration_moved heldAt.landed
  refine ⟨?_, ?_, isIn.nonneg, ?_⟩
  · rw [heldAt.table]
    exact isIn.inOrder
  · rw [heldAt.table, heldAt.follower]
    exact isIn.current
  · rw [duration]
    exact isIn.long

section Ordered

variable [Scalar.Rounded α]

/-- The stream can go to a time of the track that the player is in, and that time belongs to no other
track. -/
theorem IsIn.reaches (isIn : IsIn player track)
    (owns : player.table.Owns track (track.timeUnder bar x)) :
    Scalar.isFinite (track.timeUnder bar x) = true ∧ track.starts ≤ track.timeUnder bar x ∧
      ∀ other, player.table.trackAt? (track.timeUnder bar x) = some other → other = track := by
  have member := TrackTable.mem_of_get? isIn.current
  have finite := isIn.inOrder.finite member
  have started : track.starts ≤ track.timeUnder bar x :=
    Track.starts_le_timeAt finite (isIn.inOrder.forward member) isIn.nonneg
      (Scalar.Ordered.refl_left owns.le_ends)
  exact ⟨Scalar.Ordered.isFinite_between finite.1 finite.2 started owns.le_ends, started,
    fun _ => isIn.inOrder.eq_of_owns (isIn.inOrder.get?_index member) started owns⟩

/-- A drag to a time of the current track takes the stream there and brings the page up to date. -/
theorem dragSeek_eq [Transport.Seekable α T] (isIn : IsIn player track)
    (owns : player.table.Owns track (track.timeUnder bar x)) :
    ∃ moved, Transport.moveTo player.stream.transport (track.timeUnder bar x) = some moved ∧
      Transport.position moved = track.timeUnder bar x ∧
      player.dragSeek bar x = updateTime { player with stream.transport := moved } := by
  obtain ⟨finite, started, -⟩ := isIn.reaches owns
  obtain ⟨moved, landed, position, sought⟩ := Stream.seek_of_within finite
    (Scalar.Ordered.le_trans isIn.nonneg started)
    (fun duration known => Scalar.Ordered.le_trans owns.le_ends (isIn.long duration known))
  have target : player.currentTrack.timeAt (bar.across x) = track.timeUnder bar x := by
    unfold currentTrack
    rw [isIn.current]
    rfl
  refine ⟨moved, landed, position, ?_⟩
  unfold dragSeek
  rw [target, seek_of_silent sought]

/-- A drag to a time of the current track takes the stream there and keeps the track. -/
theorem heldAt_dragSeek [Transport.Seekable α T] (isIn : IsIn player track)
    (owns : player.table.Owns track (track.timeUnder bar x)) :
    HeldAt player (player.dragSeek bar x) track bar x := by
  obtain ⟨moved, landed, position, dragged⟩ := dragSeek_eq isIn owns
  let there : Player α T G S F := { player with stream.transport := moved }
  have kept : (there.follower.observe there.table there.stream.position).1 = player.follower := by
    cases found : there.table.trackAt? there.stream.position with
    | none => exact congrArg Prod.fst (Follower.observe_of_uncovered found)
    | some other =>
      have here : there.stream.position = track.timeUnder bar x := position
      rw [here] at found
      obtain rfl := (isIn.reaches owns).2.2 other found
      rw [here]
      exact congrArg Prod.fst
        (Follower.observe_of_same found (isIn.inOrder.index isIn.current))
  obtain ⟨effects, log, updated⟩ := updateTime_eq there
  rw [kept] at updated
  rw [dragged, updated]
  exact ⟨landed, position, _, _, rfl⟩

/-- Where the pointer was before makes no difference to where a move takes the stream. -/
theorem HeldAt.pointerMove [Transport.Seekable α T] [GainStage α G] [PreferenceStore S]
    (heldAt : HeldAt held player track bar x) (isIn : IsIn held track)
    (holding : held.drag = some (.seek bar)) {next : α}
    (owns : held.table.Owns track (track.timeUnder bar next)) (y : α) :
    HeldAt held (player.pointerMove next y) track bar next := by
  have drag := heldAt.drag.trans holding
  have moved : player.pointerMove next y = player.dragSeek bar next := by
    unfold Player.pointerMove
    rw [drag]
  rw [moved]
  obtain ⟨effects, log, same⟩ := heldAt.same
  rw [← heldAt.table] at owns
  have next := heldAt_dragSeek (heldAt.isIn isIn) owns
  refine ⟨?_, next.position, ?_⟩
  · rw [← Transport.Seekable.overwrites heldAt.landed]
    exact next.landed
  · obtain ⟨nextEffects, nextLog, nextSame⟩ := next.same
    refine ⟨nextEffects, nextLog, nextSame.trans ?_⟩
    rw [same]

/-- The player after the pointer was moved from place to place. -/
def pointerMoves [GainStage α G] [PreferenceStore S] (player : Player α T G S F)
    (moves : List (α × α)) : Player α T G S F :=
  moves.foldl (fun player move => player.pointerMove move.1 move.2) player

theorem HeldAt.pointerMoves [Transport.Seekable α T] [GainStage α G] [PreferenceStore S]
    (heldAt : HeldAt held player track bar x) (isIn : IsIn held track)
    (holding : held.drag = some (.seek bar)) {moves : List (α × α)}
    (owned : ∀ place ∈ moves.map Prod.fst, held.table.Owns track (track.timeUnder bar place)) :
    HeldAt held (player.pointerMoves moves) track bar
      ((x :: moves.map Prod.fst).getLast (List.cons_ne_nil _ _)) := by
  induction moves generalizing player x with
  | nil => exact heldAt
  | cons move later inductionHypothesis =>
    have moved := heldAt.pointerMove isIn holding (owned move.1 List.mem_cons_self) move.2
    exact inductionHypothesis moved fun place member => owned place (List.mem_cons_of_mem _ member)

/-- Throughout a drag along the seek bar that keeps to times of the current track, the player stays
in the track and the position is the one under the pointer. Moving the pointer to where it is changes
nothing. The right end of the bar stands for such a time unless another track starts there. -/
theorem seekDrag_keeps_track [Transport.Seekable α T] [GainStage α G] [PreferenceStore S]
    {entries : List (TrackEntry α)} {player : Player α T G S F} {track : Track α}
    (accepted : TrackTable.ofEntries entries = .ok player.table)
    (current : player.table.get? player.follower.current = some track)
    (nonneg : (0.0 : α) ≤ track.starts)
    (long : ∀ duration, player.stream.duration = some duration →
      player.table.last.ends ≤ duration)
    (bar : Bar α) (pressed : α) (moves : List (α × α))
    (owned : ∀ place ∈ pressed :: moves.map Prod.fst,
      player.table.Owns track (track.timeUnder bar place)) :
    let place := (pressed :: moves.map Prod.fst).getLast (List.cons_ne_nil _ _)
    let after := (player.seekPointerDown bar pressed).pointerMoves moves
    after.follower.current = player.follower.current ∧
      after.stream.position = track.timeUnder bar place ∧
      track.starts ≤ after.stream.position ∧ after.stream.position ≤ track.ends ∧
      ∀ y, (after.pointerMove place y).stream = after.stream ∧
        (after.pointerMove place y).follower = after.follower := by
  intro place after
  have inOrder := TrackTable.inOrder_of_ofEntries accepted
  let held : Player α T G S F := { player.pauseStream with drag := some (.seek bar) }
  have isIn : IsIn held track := by
    refine ⟨inOrder, current, nonneg, fun duration known => ?_⟩
    refine Scalar.Ordered.le_trans (TrackTable.ends_le_last inOrder current) (long duration ?_)
    exact Transport.Seekable.duration_paused.symm.trans known
  have started : HeldAt held (player.seekPointerDown bar pressed) track bar pressed :=
    heldAt_dragSeek isIn (owned pressed List.mem_cons_self)
  have heldAt : HeldAt held after track bar place :=
    started.pointerMoves isIn rfl fun place member => owned place (List.mem_cons_of_mem _ member)
  have owns : held.table.Owns track (track.timeUnder bar place) :=
    owned place (List.getLast_mem (List.cons_ne_nil _ _))
  have reached := isIn.reaches owns
  refine ⟨congrArg Follower.current heldAt.follower, heldAt.position, ?_, ?_, fun y => ?_⟩
  · rw [heldAt.position]
    exact reached.2.1
  · rw [heldAt.position]
    exact owns.le_ends
  · have again := heldAt.pointerMove isIn rfl owns y
    exact ⟨again.stream_eq heldAt, again.follower.trans heldAt.follower.symm⟩

end Ordered

/-- A drag over the first of two tracks, from a quarter of it to three quarters and past its left
end. -/
theorem seekDrag_keeps_first_track :
    ∃ player, TwoTracks.setUp = .ok player ∧
      let track := player.table.first
      let moves : List (Float × Float) := [(75.0, 5.0), (0.0 - 20.0, 5.0)]
      ((0.0 : Float) ≤ track.starts ∧
        ∀ place ∈ (25.0 : Float) :: moves.map Prod.fst,
          player.table.Owns track (track.timeUnder TwoTracks.bar place)) ∧
      let place := ((25.0 : Float) :: moves.map Prod.fst).getLast (List.cons_ne_nil _ _)
      let after := (player.seekPointerDown TwoTracks.bar 25.0).pointerMoves moves
      after.follower.current = player.follower.current ∧
        after.stream.position = track.timeUnder TwoTracks.bar place ∧
        track.starts ≤ after.stream.position ∧ after.stream.position ≤ track.ends ∧
        ∀ y, (after.pointerMove place y).stream = after.stream ∧
          (after.pointerMove place y).follower = after.follower := by
  obtain ⟨player, setUp, passed⟩ := TwoTracks.exists_player (fun player =>
    decide ((0.0 : Float) ≤ player.table.first.starts) &&
      decide (player.table.last.ends ≤ (360.0 : Float)) &&
      [(25.0 : Float), 75.0, 0.0 - 20.0].all fun place =>
        decide (player.table.Owns player.table.first
          (player.table.first.timeUnder TwoTracks.bar place))) (by decide +kernel)
  simp only [Bool.and_eq_true, List.all_eq_true, decide_eq_true_eq] at passed
  obtain ⟨⟨nonneg, long⟩, owned⟩ := passed
  have isNew := isNew_of_new setUp
  have current : player.table.get? player.follower.current = some player.table.first := by
    rw [isNew.follower]
    rfl
  have known : ∀ duration, player.stream.duration = some duration →
      player.table.last.ends ≤ duration := by
    intro duration known
    rw [isNew.stream] at known
    obtain rfl := Option.some.inj known
    exact long
  exact ⟨player, setUp, ⟨nonneg, owned⟩,
    seekDrag_keeps_track isNew.table current nonneg known TwoTracks.bar 25.0 _ owned⟩

/-- At the right end of the bar the player goes on to the next track, and from then on the bar stands
for that one: moving the pointer to where it is takes the stream on to the end of the release. -/
theorem seekDrag_leaves_first_track :
    ∃ player, TwoTracks.setUp = .ok player ∧ player.follower.current = 0 ∧
      (player.stream.position : Float) = 0.0 ∧
      let pressed := player.seekPointerDown TwoTracks.bar 100.0
      pressed.follower.current = 1 ∧ (pressed.stream.position : Float) = 180.0 ∧
        (pressed.pointerMove 100.0 5.0).stream.position = (360.0 : Float) := by
  obtain ⟨player, setUp, passed⟩ := TwoTracks.exists_player (fun player =>
    let pressed := player.seekPointerDown TwoTracks.bar 100.0
    decide (player.follower.current = 0 ∧ (player.stream.position : Float) = 0.0 ∧
      pressed.follower.current = 1 ∧ (pressed.stream.position : Float) = 180.0 ∧
        (pressed.pointerMove 100.0 5.0).stream.position = (360.0 : Float))) (by decide +kernel)
  exact ⟨player, setUp, of_decide_eq_true passed⟩

end Player

end ReleasePlayer
