/-
This file proves that the seek bar is filled up to the pointer. The place of the pointer stands for a
time of the current track; the stream goes there, the time is looked up in the table, and the track
found says which fraction of it lies before that time. In exact arithmetic each of these undoes what
another did, so the page is told the fraction that the pointer is at, and nothing of another track. As
long as the pointer is down this goes on: whatever leaves the stream in its place leaves the player in
its track, so that the next move of the pointer is understood like the first.
-/

import ReleasePlayer.Proofs.Bar
import ReleasePlayer.Proofs.Player.CurrentTrack
import ReleasePlayer.Proofs.Player.SeekDrag

namespace ReleasePlayer

/-! ### Streams at rest -/

/-- A transport that is paused once it is told so, and that a move neither starts nor pauses. -/
class Transport.Steady (α : outParam Type) (T : Type) [Transport α T] : Prop where
  isPaused_pause (transport : T) : Transport.isPaused (Transport.pause transport).1 = true
  isPaused_moved {transport moved : T} {time : α} :
    Transport.moveTo transport time = some moved →
    Transport.isPaused moved = Transport.isPaused transport

instance {α : Type} [Scalar α] : Transport.Steady α (InMemory.Deck α) where
  isPaused_pause _ := rfl
  isPaused_moved landed := by
    obtain ⟨position, rfl⟩ := InMemory.Deck.eq_of_moveTo landed
    rfl

/-- Whether a change of the stream leaves it in its place, neither starts nor pauses it, and tells
nothing new of its length. -/
structure Stream.Rests {α T : Type} [Transport α T] (change : Stream T → Stream T) : Prop where
  position (stream : Stream T) : (change stream).position = stream.position
  isPaused (stream : Stream T) : (change stream).isPaused = stream.isPaused
  duration (stream : Stream T) : (change stream).duration = stream.duration

/-- What may happen while the pointer is down on the seek bar: it is moved to places that stand for
times of the track, or the stream is left alone. -/
inductive Exchange.Allowed {α T : Type} [Transport α T] (reaches : α → Prop) :
    Exchange α T → Prop where
  | move {x : α} (reached : reaches x) (y : α) : Allowed reaches (.input (.command (.move x y)))
  | render : Allowed reaches (.input (.command .render))
  | registerLyrics (slug : String) (isOpen : Bool) :
      Allowed reaches (.input (.command (.registerLyrics slug isOpen)))
  | toggleLyrics (slug : String) (isOpen : Bool) :
      Allowed reaches (.input (.command (.toggleLyrics slug isOpen)))
  | toggleMute : Allowed reaches (.input (.command .toggleMute))
  | toggleReplaygain : Allowed reaches (.input (.command .toggleReplaygain))
  | notify (notification : Notification) : Allowed reaches (.input (.notify notification))
  | frame : Allowed reaches (.input .frame)
  | drift {change : Stream T → Stream T} (rests : Stream.Rests change) :
      Allowed reaches (.input (.drift change))
  | handOver : Allowed reaches .handOver

/-! ### Fractions and times -/

section Fractions

variable {K : Type} [Exact K] {track : Track K}

/-- A time that a place of the pointer stands for lies at the fraction of the track that the pointer is
at. -/
theorem Track.fractionAt_timeUnder (positive : track.starts < track.ends) (bar : Bar K) (x : K) :
    track.fractionAt (track.timeUnder bar x) = passed bar.left bar.width x := by
  have length : 0 < track.ends - track.starts := sub_pos.mpr positive
  unfold fractionAt Track.length
  rw [Exact.zero_literal, if_pos length, track.timeUnder_eq, add_sub_cancel_left,
    mul_div_cancel_right₀ _ length.ne']

/-- Whether a place of the pointer stands for a time of a track: all of the bar but its right end does,
and on the last track all of it. -/
def TrackTable.Reaches (table : TrackTable K) (track : Track K) (bar : Bar K) (x : K) : Prop :=
  passed bar.left bar.width x < 1 ∨ track.index = table.lastIndex

variable {table : TrackTable K} {bar : Bar K} {x : K}

theorem TrackTable.Reaches.owns (reaches : table.Reaches track bar x) (inOrder : table.InOrder)
    (positive : track.starts < track.ends) : table.Owns track (track.timeUnder bar x) := by
  rw [TrackTable.owns_timeUnder_iff positive]
  exact reaches.imp_right inOrder.endsAlone_of_last

/-- A place of the pointer that stands for a time of a track stands for one that belongs to it. -/
theorem TrackTable.Reaches.trackAt?_eq (reaches : table.Reaches track bar x)
    (inOrder : table.InOrder) (placed : table.get? track.index = some track)
    (positive : track.starts < track.ends) :
    table.trackAt? (track.timeUnder bar x) = some track := by
  have started : track.starts ≤ track.timeUnder bar x := by
    rw [track.timeUnder_eq]
    exact le_add_of_nonneg_right (mul_nonneg passed_nonneg (sub_pos.mpr positive).le)
  rcases reaches with before | last
  · exact TrackTable.trackAt?_of_covers inOrder placed started
      ((Track.timeUnder_lt_ends_iff positive bar x).mpr before)
  · rw [last] at placed
    exact TrackTable.trackAt?_of_last inOrder placed started
      (Track.timeUnder_le_ends positive bar x)

end Fractions

/-! ### What the page is told -/

/-- Whether an effect only shows how far the track is played or fetched. -/
def Effect.isGauge {α : Type} : Effect α → Bool
  | .setSeekPosition _ => true
  | .setTime _ _ => true
  | .setBuffered _ => true
  | _ => false

namespace Player

section Gauges

variable {α T G S F : Type} [Scalar α] [Transport α T]

theorem updateBuffered_gauges (player : Player α T G S F) : ∃ fetched,
    player.updateBuffered = player.queue fetched ∧ (∀ effect ∈ fetched, effect.isGauge = true) ∧
      ∀ effect ∈ fetched, effect.seekPosition? = none := by
  unfold updateBuffered
  split
  · exact ⟨_, rfl, by simp [Effect.isGauge], by simp [Effect.seekPosition?]⟩
  · refine ⟨[], ?_, by simp, by simp⟩
    simp only [queue, List.append_nil]

/-- In the current track, bringing the page up to date shows the time in the track and nothing of
another. -/
theorem updateTime_gauges {player : Player α T G S F} {track : Track α}
    (covered : player.table.trackAt? player.stream.position = some track)
    (same : track.index = player.follower.current) : ∃ queued,
    player.updateTime = player.queue queued ∧ (∀ effect ∈ queued, effect.isGauge = true) ∧
      Effect.latest Effect.seekPosition? queued =
        some (track.fractionAt player.stream.position) := by
  obtain ⟨fetched, buffered, gauges, nothing⟩ :=
    updateBuffered_gauges (player.queue (timeEffects track player.stream.position))
  refine ⟨timeEffects track player.stream.position ++ fetched, ?_, fun effect member => ?_, ?_⟩
  · unfold updateTime
    dsimp only
    rw [covered, followStream_of_same covered same]
    dsimp only
    rw [buffered, queue_queue]
  · have times : ∀ effect ∈ timeEffects track player.stream.position, effect.isGauge = true := by
      simp [timeEffects, Effect.isGauge]
    exact (List.mem_append.mp member).elim (times effect) (gauges effect)
  · rw [Effect.latest_append_of_none nothing]
    exact (Effect.tells_timeEffects [] track player.stream.position).seekPosition

end Gauges

/-! ### Holding the pointer still -/

section Standing

variable {α T G S F : Type} [Transport α T]

/-- What a drag along the seek bar depends on. -/
structure Footing (α : Type) where
  table : TrackTable α
  current : Nat
  drag : Option (Drag α)
  position : α
  isPaused : Bool
  duration : Option α

/-- The footing of a player. -/
def footing (player : Player α T G S F) : Footing α :=
  ⟨player.table, player.follower.current, player.drag, player.stream.position,
    player.stream.isPaused, player.stream.duration⟩

variable [Scalar α] {player : Player α T G S F} {table : TrackTable α} {track : Track α}
  {bar : Bar α}

/-- The pointer is down on the seek bar, and the player stands still in a track of a table. -/
structure Standing (player : Player α T G S F) (table : TrackTable α) (track : Track α)
    (bar : Bar α) : Prop where
  sameTable : player.table = table
  isIn : player.IsIn track
  pressed : player.drag = some (.seek bar)
  paused : player.stream.isPaused = true
  inTrack : player.table.trackAt? player.stream.position = some track

theorem Standing.current (standing : Standing player table track bar) :
    player.follower.current = track.index :=
  (standing.isIn.inOrder.index standing.isIn.current).symm

theorem Standing.keep {after : Player α T G S F} (standing : Standing player table track bar)
    (same : after.footing = player.footing) : Standing after table track bar := by
  obtain ⟨table, current, drag, position, isPaused, duration⟩ := Footing.mk.inj same
  refine ⟨table.trans standing.sameTable, ⟨?_, ?_, standing.isIn.nonneg, ?_⟩,
    drag.trans standing.pressed, isPaused.trans standing.paused, ?_⟩
  · rw [table]
    exact standing.isIn.inOrder
  · rw [table, current]
    exact standing.isIn.current
  · rw [duration]
    exact standing.isIn.long
  · rw [table, position]
    exact standing.inTrack

theorem Standing.updateTime (standing : Standing player table track bar) :
    player.updateTime.footing = player.footing := by
  obtain ⟨queued, updated, -⟩ := updateTime_gauges standing.inTrack standing.current.symm
  rw [updated]
  rfl

theorem Standing.renderInitial [GainStage α G] [PreferenceStore S]
    (standing : Standing player table track bar) :
    player.renderInitial.footing = player.footing := by
  have shown : Standing (player.queue player.openingEffects).volumeChanged table track bar :=
    standing.keep rfl
  exact shown.updateTime

omit [Scalar α] in
theorem footing_registerLyrics (player : Player α T G S F) (slug : String) (isOpen : Bool) :
    (player.orUnchanged (player.registerLyrics slug isOpen)).footing = player.footing := by
  obtain ⟨follower, current, noted⟩ := player.registerLyrics_eq slug isOpen
  unfold footing
  rw [noted, ← current]

omit [Scalar α] in
theorem footing_lyricsToggled (player : Player α T G S F) (slug : String) (isOpen : Bool) :
    (player.orUnchanged (player.lyricsToggled slug isOpen)).footing = player.footing := by
  obtain ⟨follower, current, noted⟩ := player.lyricsToggled_eq slug isOpen
  unfold footing
  rw [noted, ← current]

theorem Standing.notify [FrameSource F] (standing : Standing player table track bar)
    (notification : Notification) : (player.notify notification).footing = player.footing := by
  rcases notification.turn_or_remark with ⟨turn, rfl⟩ | ⟨remark, rfl⟩
  · obtain ⟨ticker, log, told⟩ := player.notify_turn_eq turn
    rw [told]
    rfl
  · cases remark with
    | timeUpdate => exact standing.updateTime
    | progress =>
      obtain ⟨effects, updated⟩ := player.updateBuffered_eq
      show player.updateBuffered.footing = player.footing
      rw [updated]
      rfl
    | canPlay => rfl
    | error message => rfl

end Standing

/-! ### Dragging along the bar -/

section Dragging

variable {K T G S F : Type} [Exact K] [Transport K T]

/-- What a move of the pointer to a fraction of the seek bar comes to: the player stands still in its
track at that fraction of it, and nothing is shown on the page but that. -/
structure FillsTo (before after : Player K T G S F) (track : Track K) (fraction : K) : Prop where
  paused : after.stream.isPaused = true
  position : after.stream.position = track.starts + fraction * (track.ends - track.starts)
  current : after.follower.current = before.follower.current
  told : ∃ queued, after.effects = before.effects ++ queued ∧
    (∀ effect ∈ queued, effect.isGauge = true) ∧
    Effect.latest Effect.seekPosition? queued = some fraction

variable {player : Player K T G S F} {track : Track K} {bar : Bar K} {x : K}

/-- A time that the pointer stands for is one that the track of the player owns, and belongs to it. -/
theorem IsIn.holds (isIn : player.IsIn track) (positive : track.starts < track.ends)
    (reaches : player.table.Reaches track bar x) :
    player.table.Owns track (track.timeUnder bar x) ∧
      player.table.trackAt? (track.timeUnder bar x) = some track := by
  have placed := isIn.inOrder.get?_index (TrackTable.mem_of_get? isIn.current)
  exact ⟨reaches.owns isIn.inOrder positive, reaches.trackAt?_eq isIn.inOrder placed positive⟩

variable [Transport.Seekable K T] [Transport.Steady K T]

theorem standing_dragSeek {table : TrackTable K} (sameTable : player.table = table)
    (isIn : player.IsIn track) (positive : track.starts < track.ends)
    (pressed : player.drag = some (.seek bar)) (paused : player.stream.isPaused = true)
    (reaches : player.table.Reaches track bar x) :
    Standing (player.dragSeek bar x) table track bar := by
  obtain ⟨owns, belongs⟩ := isIn.holds positive reaches
  have heldAt := heldAt_dragSeek isIn owns
  refine ⟨heldAt.table.trans sameTable, heldAt.isIn isIn, heldAt.drag.trans pressed,
    (Transport.Steady.isPaused_moved heldAt.landed).trans paused, ?_⟩
  rw [heldAt.position, heldAt.table]
  exact belongs

theorem fillsTo_dragSeek (isIn : player.IsIn track) (positive : track.starts < track.ends)
    (paused : player.stream.isPaused = true) (reaches : player.table.Reaches track bar x) :
    FillsTo player (player.dragSeek bar x) track (passed bar.left bar.width x) := by
  obtain ⟨owns, belongs⟩ := isIn.holds positive reaches
  have heldAt := heldAt_dragSeek isIn owns
  refine ⟨(Transport.Steady.isPaused_moved heldAt.landed).trans paused,
    heldAt.position.trans (track.timeUnder_eq bar x), congrArg Follower.current heldAt.follower, ?_⟩
  obtain ⟨moved, landed, position, dragged⟩ := dragSeek_eq isIn owns
  let there : Player K T G S F := { player with stream.transport := moved }
  have under : there.stream.position = track.timeUnder bar x := position
  have inTrack : there.table.trackAt? there.stream.position = some track := by
    rw [under]
    exact belongs
  obtain ⟨queued, updated, gauges, filled⟩ :=
    updateTime_gauges inTrack (isIn.inOrder.index isIn.current)
  refine ⟨queued, ?_, gauges, ?_⟩
  · rw [dragged, updated]
    rfl
  · rw [filled, under, Track.fractionAt_timeUnder positive]

variable [GainStage K G] [PreferenceStore S] {table : TrackTable K}

omit [Transport.Seekable K T] [Transport.Steady K T] in
theorem Standing.pointerMove_eq (standing : Standing player table track bar) (x y : K) :
    player.pointerMove x y = player.dragSeek bar x := by
  unfold Player.pointerMove
  rw [standing.pressed]

theorem Standing.pointerMove (standing : Standing player table track bar)
    (positive : track.starts < track.ends) (reaches : table.Reaches track bar x) (y : K) :
    Standing (player.pointerMove x y) table track bar ∧
      FillsTo player (player.pointerMove x y) track (passed bar.left bar.width x) := by
  rw [standing.pointerMove_eq]
  rw [← standing.sameTable] at reaches
  exact ⟨standing_dragSeek standing.sameTable standing.isIn positive standing.pressed
      standing.paused reaches,
    fillsTo_dragSeek standing.isIn positive standing.paused reaches⟩

variable [FrameSource F]

theorem Standing.exchange (standing : Standing player table track bar)
    (positive : track.starts < track.ends) {exchange : Exchange K T}
    (allowed : exchange.Allowed (table.Reaches track bar)) :
    Standing (player.exchange exchange) table track bar := by
  cases allowed with
  | move reached y => exact (standing.pointerMove positive reached y).1
  | render => exact standing.keep standing.renderInitial
  | registerLyrics slug isOpen => exact standing.keep (player.footing_registerLyrics slug isOpen)
  | toggleLyrics slug isOpen => exact standing.keep (player.footing_lyricsToggled slug isOpen)
  | toggleMute => exact standing.keep rfl
  | toggleReplaygain => exact standing.keep rfl
  | notify notification => exact standing.keep (standing.notify notification)
  | frame => exact standing.keep standing.updateTime
  | @drift change rests =>
    refine standing.keep ?_
    show Footing.mk _ _ _ (change player.stream).position (change player.stream).isPaused
      (change player.stream).duration = player.footing
    rw [rests.position, rests.isPaused, rests.duration]
    rfl
  | handOver => exact standing.keep rfl

theorem Standing.exchangeAll (standing : Standing player table track bar)
    (positive : track.starts < track.ends) {exchanges : List (Exchange K T)}
    (allowed : ∀ exchange ∈ exchanges, exchange.Allowed (table.Reaches track bar)) :
    Standing (player.exchangeAll exchanges) table track bar := by
  induction exchanges generalizing player with
  | nil => exact standing
  | cons exchange later inductionHypothesis =>
    have next := standing.exchange positive (allowed exchange List.mem_cons_self)
    exact inductionHypothesis next fun exchange member =>
      allowed exchange (List.mem_cons_of_mem _ member)

/-- In exact arithmetic the seek bar is filled up to the pointer from when it is pressed on, whatever
the player was doing, and again by each move, as long as the pointer is kept to places that stand for
times of the current track and nothing else moves or starts the stream. The stream is paused at the
time that the pointer stands for, and the player does not leave the track. -/
theorem seekFill_follows_pointer {entries : List (TrackEntry K)} {player : Player K T G S F}
    {track : Track K} (accepted : TrackTable.ofEntries entries = .ok player.table)
    (current : player.table.get? player.follower.current = some track)
    (positive : track.starts < track.ends) (nonneg : 0 ≤ track.starts)
    (long : ∀ duration, player.stream.duration = some duration → track.ends ≤ duration)
    (bar : Bar K) {pressed : K} (reached : player.table.Reaches track bar pressed) :
    let held := player.seekPointerDown bar pressed
    FillsTo player held track (passed bar.left bar.width pressed) ∧
      ∀ exchanges : List (Exchange K T),
        (∀ exchange ∈ exchanges, exchange.Allowed (player.table.Reaches track bar)) →
        let later := held.exchangeAll exchanges
        later.follower.current = player.follower.current ∧
          ∀ x y, player.table.Reaches track bar x →
            FillsTo later (later.pointerMove x y) track (passed bar.left bar.width x) := by
  intro held
  let down : Player K T G S F := { player.pauseStream with drag := some (.seek bar) }
  have isIn : IsIn down track := by
    refine ⟨TrackTable.inOrder_of_ofEntries accepted, current, ?_, fun duration known => ?_⟩
    · rw [Exact.zero_literal]
      exact nonneg
    · exact long duration (Transport.Seekable.duration_paused.symm.trans known)
  have paused : down.stream.isPaused = true := Transport.Steady.isPaused_pause _
  have standing : Standing held player.table track bar :=
    standing_dragSeek rfl isIn positive rfl paused reached
  obtain ⟨still, position, sameTrack, told⟩ := fillsTo_dragSeek isIn positive paused reached
  refine ⟨⟨still, position, sameTrack, told⟩, fun exchanges allowed => ?_⟩
  have later := standing.exchangeAll positive allowed
  refine ⟨?_, fun x y reaches => (later.pointerMove positive reaches y).2⟩
  exact later.current.trans (standing.current.symm.trans sameTrack)

end Dragging

end Player

namespace Gapped

open InMemory Player

/-- A seek bar of eighty pixels. -/
def bar : Bar ℚ := ⟨0, 0, 80, 10⟩

/-- The pointer goes on past the right end of the bar, which is the end of the release, and a frame
comes. -/
def toTheEnd : List (Exchange ℚ (Deck ℚ)) :=
  [.handOver, .input (.notify .pause), .input (.command (.move 90 0)), .handOver, .input .frame]

/-- The third track, which is the last one. -/
def dusk : Track ℚ := ⟨⟨"dusk", "Dusk", "", 12, 20⟩, 2⟩

/-- The listener presses on a quarter of the third track while it plays, goes to its end and back to
three quarters. -/
theorem seekFill_follows_through_dusk :
    ∃ player, setUp = .ok player ∧
      let playing := player.exchangeAll (wander.take 4)
      playing.table.get? playing.follower.current = some dusk ∧ playing.stream.isPaused = false ∧
        let held := playing.seekPointerDown bar 20
        FillsTo playing held dusk (1 / 4) ∧
          let later := held.exchangeAll toTheEnd
          later.follower.current = playing.follower.current ∧ later.stream.position = (20 : ℚ) ∧
            FillsTo later (later.pointerMove 60 0) dusk (3 / 4) := by
  obtain ⟨player, made, checked⟩ := exists_of_any setUp (fun player =>
    let playing := player.exchangeAll (wander.take 4)
    decide (playing.table = player.table ∧ playing.table.lastIndex = 2 ∧
      playing.table.get? playing.follower.current = some dusk ∧ playing.stream.isPaused = false ∧
      playing.stream.duration = some (20 : ℚ) ∧
      ((playing.seekPointerDown bar 20).exchangeAll toTheEnd).stream.position = (20 : ℚ)))
    (by decide +kernel)
  obtain ⟨table, last, current, isPlaying, duration, atEnd⟩ := of_decide_eq_true checked
  refine ⟨player, made, ?_⟩
  intro playing
  have accepted : TrackTable.ofEntries config.tracks = .ok playing.table :=
    (isNew_of_new made).table.trans (congrArg Except.ok table.symm)
  have long : ∀ length, playing.stream.duration = some length → (20 : ℚ) ≤ length :=
    fun length known => (Option.some.inj (duration.symm.trans known)).le
  -- in the last track the right end of the bar stands for a time of the track, too
  have everywhere : ∀ x, playing.table.Reaches dusk bar x := fun _ => Or.inr last.symm
  have allowed : ∀ exchange ∈ toTheEnd, exchange.Allowed (playing.table.Reaches dusk bar) := by
    simp only [toTheEnd, List.forall_mem_cons]
    exact ⟨.handOver, .notify .pause, .move (everywhere 90) 0, .handOver, .frame,
      List.forall_mem_nil _⟩
  have quarter : passed bar.left bar.width 20 = 1 / 4 := by decide +kernel
  have threeQuarters : passed bar.left bar.width 60 = 3 / 4 := by decide +kernel
  obtain ⟨pressed, moved⟩ := seekFill_follows_pointer accepted current (by decide +kernel)
    (by decide +kernel) long bar (everywhere 20)
  obtain ⟨still, filled⟩ := moved toTheEnd allowed
  have back := filled 60 0 (everywhere 60)
  rw [quarter] at pressed
  rw [threeQuarters] at back
  exact ⟨current, isPlaying, pressed, still, atEnd, back⟩

end Gapped

end ReleasePlayer
