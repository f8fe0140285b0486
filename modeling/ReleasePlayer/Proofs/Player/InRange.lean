/-
This file proves that a page is never told a number that it cannot show. A fraction of a bar lies between
nothing and all of it, and the time that has passed of a track is labelled like the length of the track
and is not longer. The place in a track is not kept within the track by force: it is in range because it
is only ever asked for in the track to which the position of the stream belongs. No number is divided
by zero on the way, for a track without length is not divided into fractions, and the factor of an
album is positive. Where a pointer is along a bar is divided by the size of the bar, which the page says
and nothing looks at first; so that quotient is worked out with care on bars that have a size only.
-/

import Mathlib.Algebra.Order.Field.Basic
import Mathlib.Tactic.NormNum.OfScientific
import ReleasePlayer.Proofs.Player.CurrentTrack
import ReleasePlayer.Proofs.TimeLabel
import ReleasePlayer.Proofs.TrackTable.Search

namespace ReleasePlayer

variable {K : Type} [Exact K]

/-! ### Working numbers out without dividing by zero -/

/-- A quotient, unless it would be one by zero. -/
def divide? (a b : K) : Option K := if b = 0 then none else some (a / b)

theorem divide?_of_ne {a b : K} (ne : b ≠ 0) : divide? a b = some (a / b) := if_neg ne

namespace Track

/-- The fraction of a track that lies before a time, worked out with care. -/
def fractionAt? (track : Track K) (time : K) : Option K :=
  if (0.0 : K) < track.length then divide? (time - track.starts) track.length else some 0.0

/-- The fraction of a track that is filled up to a time, worked out with care. -/
def filledAt? (track : Track K) (time : K) : Option K := (track.fractionAt? time).map Scalar.clampUnit

theorem fractionAt?_eq (track : Track K) (time : K) :
    track.fractionAt? time = some (track.fractionAt time) := by
  unfold fractionAt? fractionAt
  split
  · rename_i positive
    rw [Exact.zero_literal] at positive
    exact divide?_of_ne positive.ne'
  · rfl

theorem filledAt?_eq (track : Track K) (time : K) :
    track.filledAt? time = some (track.filledAt time) := by
  unfold filledAt?
  rw [fractionAt?_eq]
  rfl

end Track

namespace Bar

/-- How large a bar is in the direction in which it fills. -/
def extent (bar : Bar K) : BarAxis → K
  | .vertical => bar.height
  | .horizontal => bar.width

/-- The fraction along the direction in which a bar fills, worked out with care. -/
def along? (bar : Bar K) (axis : BarAxis) (x y : K) : Option K :=
  match axis with
  | .vertical =>
    (divide? (y - bar.top) bar.height).map fun passed => 1.0 - Scalar.clampUnit passed
  | .horizontal => (divide? (x - bar.left) bar.width).map Scalar.clampUnit

theorem along?_eq {bar : Bar K} {axis : BarAxis} (sized : bar.extent axis ≠ 0) (x y : K) :
    bar.along? axis x y = some (bar.along axis x y) := by
  cases axis with
  | vertical => exact congrArg (Option.map _) (divide?_of_ne sized)
  | horizontal => exact congrArg (Option.map _) (divide?_of_ne sized)

end Bar

namespace VolumeControl

variable {G : Type} [GainStage K G]

/-- The volume that the listener hears of, worked out with care. -/
def volume? (control : VolumeControl K G) : Option K :=
  if control.replaygain then divide? control.gain control.compensation.factor else some control.gain

/-- How far the volume bar is filled, worked out with care. -/
def fill? (control : VolumeControl K G) : Option K :=
  (control.volume?.bind fun volume => divide? volume control.maxVolume).map (Scalar.clamp 0.0 1.0)

theorem volume?_eq {control : VolumeControl K G} (positive : 0 < control.compensation.factor) :
    control.volume? = some control.volume := by
  unfold volume? volume Compensation.remove
  split
  · exact divide?_of_ne positive.ne'
  · rfl

theorem fill?_eq {control : VolumeControl K G} (positive : 0 < control.compensation.factor) :
    control.fill? = some control.fill := by
  have loudest : control.maxVolume ≠ 0 := control.headroom.maxVolume_pos.ne'
  unfold fill?
  rw [volume?_eq positive, Option.bind_some, divide?_of_ne loudest]
  rfl

end VolumeControl

/-! ### Numbers in range -/

namespace Exact

theorem clamp_unit_mem (x : K) : Scalar.clamp 0.0 1.0 x ∈ Set.Icc (0 : K) 1 := by
  rw [zero_literal, one_literal, clamp_eq zero_le_one]
  exact ⟨le_max_left _ _, max_le zero_le_one (min_le_left _ _)⟩

theorem clampUnit_mem (x : K) : Scalar.clampUnit x ∈ Set.Icc (0 : K) 1 := by
  unfold Scalar.clampUnit
  rw [if_pos le_rfl]
  exact clamp_unit_mem x

end Exact

theorem wholeSeconds_mono {time later : K} (le : time ≤ later) :
    wholeSeconds time ≤ wholeSeconds later :=
  min_le_min_right _ (Nat.floor_mono le)

/-- Whether the numbers that an effect shows are in range. -/
def Effect.InRange : Effect K → Prop
  | .setSeekPosition fraction => fraction ∈ Set.Icc (0 : K) 1
  | .setBuffered fraction => fraction ∈ Set.Icc (0 : K) 1
  | .setVolume _ _ fill => fill ∈ Set.Icc (0 : K) 1
  | .setTime elapsed total =>
    (Label.fields elapsed).length = (Label.fields total).length ∧
      ∃ seconds length, Label.seconds? elapsed = some seconds ∧
        Label.seconds? total = some length ∧ seconds ≤ length
  | _ => True

namespace Track

variable {track : Track K} {time : K}

theorem fractionAt_mem (within : time ∈ Set.Icc track.starts track.ends) :
    track.fractionAt time ∈ Set.Icc (0 : K) 1 := by
  unfold fractionAt
  rw [Exact.zero_literal]
  split
  · rename_i positive
    refine ⟨div_nonneg (sub_nonneg.mpr within.1) positive.le, (div_le_one positive).mpr ?_⟩
    exact sub_le_sub_right within.2 _
  · exact ⟨le_rfl, zero_le_one⟩

/-- What is shown of a time within a track is in range. -/
theorem inRange_timeEffects (within : time ∈ Set.Icc track.starts track.ends) :
    ∀ effect ∈ Player.timeEffects track time, effect.InRange := by
  have shorter : wholeSeconds (time - track.starts) ≤ wholeSeconds track.length :=
    wholeSeconds_mono (sub_le_sub_right within.2 _)
  unfold Player.timeEffects
  simp only [List.mem_cons, List.not_mem_nil, or_false, forall_eq_or_imp, forall_eq]
  exact ⟨fractionAt_mem within, Label.length_fields_timeLabel shorter, _, _,
    Label.seconds?_timeLabel _ _, Label.seconds?_timeLabel _ _, shorter⟩

end Track

namespace Player

variable {T G S F : Type}

theorem inRange_changeEffects (player : Player K T G S F) (change : TrackChange) :
    ∀ effect ∈ player.changeEffects change, effect.InRange := by
  have left : ∀ effect ∈ leftEffects player.table change.previous, effect.InRange := by
    unfold leftEffects
    split <;> simp [Effect.InRange]
  have lyrics (index : Option Nat) (isOpen : Bool) :
      ∀ effect ∈ lyricsEffects player.table index isOpen, effect.InRange := by
    unfold lyricsEffects
    split <;> simp [Effect.InRange]
  unfold changeEffects
  simp only [List.forall_mem_append]
  refine ⟨⟨⟨left, lyrics _ _⟩, lyrics _ _⟩, ?_⟩
  simp [Effect.InRange, skipEffect]

theorem inRange_openingEffects [GainStage K G] (player : Player K T G S F) :
    ∀ effect ∈ player.openingEffects, effect.InRange := by
  unfold openingEffects hidingEffects durationEffects skipEffect
  split <;> split <;> simp [Effect.InRange]

/-- The invariant: all numbers that are queued are in range, and the ones still to be worked out will
be. -/
structure Legible (player : Player K T G S F) : Prop where
  inOrder : player.table.InOrder
  positive : 0 < player.volume.compensation.factor
  effects : ∀ effect ∈ player.effects, effect.InRange

section Handlers

variable {player : Player K T G S F} (legible : player.Legible)
include legible

theorem Legible.queue {effects : List (Effect K)} (inRange : ∀ effect ∈ effects, effect.InRange) :
    (player.queue effects).Legible :=
  ⟨legible.inOrder, legible.positive, List.forall_mem_append.mpr ⟨legible.effects, inRange⟩⟩

theorem Legible.swapControls (before after : ControlClass) :
    (player.swapControls before after).Legible :=
  legible.queue (by simp [Effect.InRange])

/-! ### Following the stream -/

section Streaming

variable [Transport K T]

theorem Legible.startStream : player.startStream.Legible := by
  unfold Player.startStream
  split
  · exact ⟨legible.inOrder, legible.positive, legible.effects⟩
  · exact ⟨legible.inOrder, legible.positive, legible.effects⟩

theorem Legible.seek (time : K) : (player.seek time).Legible :=
  ⟨legible.inOrder, legible.positive, legible.effects⟩

theorem Legible.updateBuffered : player.updateBuffered.Legible := by
  unfold Player.updateBuffered
  split
  · refine legible.queue fun effect member => ?_
    obtain rfl := List.mem_singleton.mp member
    exact Exact.clampUnit_mem _
  · exact legible

theorem Legible.followStream : player.followStream.Legible := by
  unfold Player.followStream
  dsimp only
  split
  · rename_i follower change _
    have reached : Legible (({ player with follower } : Player K T G S F).tell
        [Follower.changeLog change player.stream.position]) :=
      ⟨legible.inOrder, legible.positive, legible.effects⟩
    exact reached.queue (inRange_changeEffects _ change)
  · exact ⟨legible.inOrder, legible.positive, legible.effects⟩

theorem Legible.updateTime : player.updateTime.Legible := by
  unfold Player.updateTime
  dsimp only
  split
  · rename_i track found
    have within : player.stream.position ∈ Set.Icc track.starts track.ends :=
      ⟨legible.inOrder.starts_le_of_trackAt? found, legible.inOrder.le_ends_of_trackAt? found⟩
    exact (legible.followStream.queue (Track.inRange_timeEffects within)).updateBuffered
  · exact legible.followStream

theorem Legible.goTo (index : Nat) : (player.goTo index).Legible := by
  unfold Player.goTo
  split
  · exact (legible.seek _).updateTime
  · exact legible

theorem Legible.togglePlay : player.togglePlay.Legible := by
  unfold Player.togglePlay
  split
  · exact legible.startStream
  · exact ⟨legible.inOrder, legible.positive, legible.effects⟩

theorem Legible.pointerUp : player.pointerUp.Legible := by
  have released : Legible ({ player with drag := none } : Player K T G S F) :=
    ⟨legible.inOrder, legible.positive, legible.effects⟩
  unfold Player.pointerUp
  refine Legible.queue ?_ (by simp [Effect.InRange])
  split
  · exact released.startStream
  · exact released

/-! ### Handlers that can fail -/

theorem Legible.attachSource (format : Option StreamFormat) (endpoint : Endpoint) :
    (player.orUnchanged (player.attachSource format endpoint)).Legible := by
  refine orUnchanged_induction legible fun after succeeded => ?_
  unfold Player.attachSource at succeeded
  cases format with
  | none =>
    obtain rfl := Except.ok.inj succeeded
    have told : Legible (player.tell
        [Log.warn "No playable format, player left without a source"]) :=
      ⟨legible.inOrder, legible.positive, legible.effects⟩
    exact told.queue (by simp [Effect.InRange])
  | some format =>
    dsimp only at succeeded
    split at succeeded
    · cases succeeded
    · obtain rfl := Except.ok.inj succeeded
      exact ⟨legible.inOrder, legible.positive, legible.effects⟩

theorem Legible.trackButton (slug : String) :
    (player.orUnchanged (player.trackButton slug)).Legible := by
  refine orUnchanged_induction legible fun after succeeded => ?_
  unfold Player.trackButton at succeeded
  split at succeeded
  · cases succeeded
  · split at succeeded
    · obtain rfl := Except.ok.inj succeeded
      exact legible.togglePlay
    · obtain rfl := Except.ok.inj succeeded
      exact (legible.goTo _).startStream

end Streaming

/-! ### The volume -/

section Sounding

variable [GainStage K G] [PreferenceStore S]

theorem Legible.volumeChanged : player.volumeChanged.Legible := by
  have kept : Legible (({ player with
      store := (Preferences.storeVolume player.store player.volume.volume).1 } :
        Player K T G S F).tell
      (Preferences.storeVolume player.store player.volume.volume).2) :=
    ⟨legible.inOrder, legible.positive, legible.effects⟩
  refine kept.queue fun effect member => ?_
  obtain rfl := List.mem_singleton.mp member
  exact Exact.clamp_unit_mem _

omit [PreferenceStore S] in
/-- No action on the volume changes the factor of the album. -/
theorem Legible.act (action : VolumeAction K) :
    Legible ({ player with volume := player.volume.act action } : Player K T G S F) := by
  refine ⟨legible.inOrder, ?_, legible.effects⟩
  show 0 < (player.volume.act action).compensation.factor
  rw [(player.volume.act_fixed action).2]
  exact legible.positive

theorem Legible.dragVolume (bar : Bar K) (x y : K) : (player.dragVolume bar x y).Legible :=
  (legible.act (.fraction (bar.along player.volumeBar x y))).volumeChanged

theorem Legible.toggleReplaygain : player.toggleReplaygain.Legible := by
  have switched := legible.act .replaygain
  have stored : Legible (({ player with
      volume := player.volume.toggleReplaygain
      store := (Preferences.storeReplaygain player.store
        player.volume.toggleReplaygain.replaygain).1 } : Player K T G S F).tell
      ((Preferences.storeReplaygain player.store
        player.volume.toggleReplaygain.replaygain).2 ++
        [Log.debug ("Replaygain " ++
          Preferences.switchText player.volume.toggleReplaygain.replaygain)])) :=
    ⟨legible.inOrder, switched.positive, legible.effects⟩
  exact (stored.queue (by simp [Effect.InRange])).volumeChanged

/-! ### Runs -/

variable [Transport K T]

theorem Legible.perform (command : Command K) : (player.perform command).Legible := by
  cases command with
  | attach format endpoint => exact legible.attachSource format endpoint
  | render => exact (legible.queue player.inRange_openingEffects).volumeChanged.updateTime
  | registerLyrics slug isOpen =>
    obtain ⟨follower, -, noted⟩ := player.registerLyrics_eq slug isOpen
    show (player.orUnchanged (player.registerLyrics slug isOpen)).Legible
    rw [noted]
    exact ⟨legible.inOrder, legible.positive, legible.effects⟩
  | toggleLyrics slug isOpen =>
    obtain ⟨follower, -, noted⟩ := player.lyricsToggled_eq slug isOpen
    show (player.orUnchanged (player.lyricsToggled slug isOpen)).Legible
    rw [noted]
    exact ⟨legible.inOrder, legible.positive, legible.effects⟩
  | seekDown bar x =>
    have pressed : Legible { player.pauseStream with drag := some (.seek bar) } :=
      ⟨legible.inOrder, legible.positive, legible.effects⟩
    exact (pressed.seek _).updateTime
  | volumeDown bar x y =>
    have pressed : Legible ({ player with drag := some (.volume bar) } : Player K T G S F) :=
      ⟨legible.inOrder, legible.positive, legible.effects⟩
    exact (pressed.queue (by simp [Effect.InRange])).dragVolume bar x y
  | move x y =>
    show (player.pointerMove x y).Legible
    unfold pointerMove
    split
    · exact (legible.seek _).updateTime
    · exact legible.dragVolume _ x y
    · exact legible
  | up => exact legible.pointerUp
  | togglePlay => exact legible.togglePlay
  | skipPrevious =>
    show player.skipPrevious.Legible
    unfold skipPrevious
    split
    · exact legible
    · exact legible.goTo _
  | skipNext =>
    show player.skipNext.Legible
    unfold skipNext
    split
    · exact legible
    · exact legible.goTo _
  | trackButton slug => exact legible.trackButton slug
  | toggleMute => exact (legible.act .mute).volumeChanged
  | toggleReplaygain => exact legible.toggleReplaygain

variable [FrameSource F]

omit [GainStage K G] [PreferenceStore S] in
theorem Legible.notify (notification : Notification) : (player.notify notification).Legible := by
  cases notification with
  | timeUpdate => exact legible.updateTime
  | progress => exact legible.updateBuffered
  | canPlay => exact legible.queue (by simp [Effect.InRange])
  | play =>
    have swapped := legible.swapControls .play .pause
    unfold Player.notify
    dsimp only
    split
    · exact legible
    · exact ⟨swapped.inOrder, swapped.positive, swapped.effects⟩
  | pause =>
    have stopped : Legible ({ player with ticker := player.ticker.stop } : Player K T G S F) :=
      ⟨legible.inOrder, legible.positive, legible.effects⟩
    unfold Player.notify
    dsimp only
    split
    · exact stopped
    · exact stopped.swapControls .pause .play
  | error message => exact ⟨legible.inOrder, legible.positive, legible.effects⟩

theorem Legible.exchange (exchange : Exchange K T) : (player.exchange exchange).Legible := by
  cases exchange with
  | input input =>
    cases input with
    | command command => exact legible.perform command
    | notify notification => exact legible.notify notification
    | frame =>
      have updated := legible.updateTime
      exact ⟨updated.inOrder, updated.positive, updated.effects⟩
    | drift change => exact ⟨legible.inOrder, legible.positive, legible.effects⟩
  | handOver => exact ⟨legible.inOrder, legible.positive, fun _ member => by cases member⟩

theorem Legible.exchangeAll (exchanges : List (Exchange K T)) :
    (player.exchangeAll exchanges).Legible := by
  induction exchanges generalizing player with
  | nil => exact legible
  | cons exchange later inductionHypothesis => exact inductionHypothesis (legible.exchange exchange)

end Sounding

end Handlers

variable [GainStage K G] [PreferenceStore S] {config : Config K} {transport : T}
  {output : G} {store : S} {frames : F} {player : Player K T G S F}

theorem IsNew.legible (isNew : IsNew config transport output store frames player) :
    player.Legible := by
  refine ⟨TrackTable.inOrder_of_ofEntries isNew.table, ?_, ?_⟩
  · rw [isNew.volume]
    exact VolumeControl.limitedTo_positive (albumCompensation_positive config.loudness)
      (GainStage.headroom output)
  · rw [isNew.effects]
    exact fun _ member => by cases member

/-- Whatever happens to a player and to its stream, the numbers that it queues are in range, and nothing
that they are worked out of is divided by zero: no time in a track, no place of a pointer on a bar that
has a size, and no gain at which the album is played, with or without evening out. -/
theorem effects_in_range [Transport K T] [FrameSource F]
    (setUp : new config transport output store frames = .ok player)
    (exchanges : List (Exchange K T)) :
    let reached := player.exchangeAll exchanges
    (∀ effect ∈ reached.effects, effect.InRange) ∧
      (∀ (track : Track K) time, track.fractionAt? time = some (track.fractionAt time) ∧
        track.filledAt? time = some (track.filledAt time)) ∧
      (∀ (bar : Bar K) axis x y, bar.extent axis ≠ 0 →
        bar.along? axis x y = some (bar.along axis x y)) ∧
      ∀ control : VolumeControl K G, control.compensation = reached.volume.compensation →
        control.fill? = some control.fill := by
  intro reached
  have legible : reached.Legible := (isNew_of_new setUp).legible.exchangeAll exchanges
  refine ⟨legible.effects, fun track time => ⟨track.fractionAt?_eq time, track.filledAt?_eq time⟩,
    fun bar axis x y sized => Bar.along?_eq sized x y,
    fun control same => VolumeControl.fill?_eq ?_⟩
  rw [same]
  exact legible.positive

end Player

/-! ### A release that starts before its stream -/

namespace Offset

open InMemory

/-- Three tracks: the first one starts before the stream, the second one has no length, and the third
one, of an hour, comes after a gap. -/
def config : Config ℚ :=
  { OneTrack.config (some (-2)) with
    tracks := [⟨"dawn", "Dawn", "", -5, 5⟩, ⟨"chime", "Chime", "", 5, 5⟩,
      ⟨"dusk", "Dusk", "", 7, 3607⟩] }

/-- The player of the release, in memory, on an output that is not amplified. -/
def setUp : Except (SetupError ℚ) (Player ℚ (Deck ℚ) (Gain ℚ) Store Frames) :=
  Player.new config (Deck.withDuration (some 3607)) (Gain.ofHeadroom .unity)
    (Store.ofEntries [] false) (Frames.fresh false)

/-- The stream gets to the middle of the last track, with some of it fetched ahead, and the listener
goes to silence. -/
def listening : List (Exchange ℚ (Deck ℚ)) :=
  [.input (.command .render), .handOver,
    .input (.drift fun stream =>
      { stream with transport := { stream.transport with position := 1807, bufferedEnd := some 2707 } }),
    .input (.notify .timeUpdate), .input (.command .toggleMute)]

theorem effects_in_range_of_offset :
    ∃ player, setUp = .ok player ∧
      let reached := player.exchangeAll listening
      .setTime "0:30:00" "1:00:00" ∈ reached.effects ∧
        .setSeekPosition (1 / 2) ∈ reached.effects ∧ .setBuffered (3 / 4) ∈ reached.effects ∧
        (∀ effect ∈ reached.effects, effect.InRange) ∧
        reached.volume.fill? = some reached.volume.fill := by
  obtain ⟨player, made, checked⟩ := Player.exists_of_any setUp (fun player =>
    decide (.setTime "0:30:00" "1:00:00" ∈ (player.exchangeAll listening).effects ∧
      .setSeekPosition (1 / 2) ∈ (player.exchangeAll listening).effects ∧
      .setBuffered (3 / 4) ∈ (player.exchangeAll listening).effects)) (by decide +kernel)
  obtain ⟨time, position, fetched⟩ := of_decide_eq_true checked
  obtain ⟨inRange, -, -, workedOut⟩ := Player.effects_in_range made listening
  exact ⟨player, made, time, position, fetched, inRange, workedOut _ rfl⟩

end Offset

end ReleasePlayer
