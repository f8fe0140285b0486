/-
This file says what the page learns of the track and of the time from one handler. A handler brings
the page up to date at most once; before and after that it neither follows the stream nor shows
anything of the track or the time. It may move the stream before it brings the page up to date, but
not after that, so that what the page shows then still belongs to the position that the stream is at
when the handler ends. Only three kinds of commands are not like that: attaching a stream puts it
anywhere, and the two that tell of lyrics write to the panels that the follower keeps.
-/

import ReleasePlayer.Proofs.Follower.Lyrics
import ReleasePlayer.Proofs.Page.GlobalButton

namespace ReleasePlayer

/-- Whether an effect shows something else than the track and the time, and asks nothing of the button
of a track. -/
def Effect.isApart {α : Type} : Effect α → Bool
  | .swapClass (.track _) _ _ => false
  | .setLyricsOpen _ _ => false
  | .setTime _ _ => false
  | .setSeekPosition _ => false
  | _ => true

/-! ### Where the stream is -/

namespace Stream

variable {α T : Type} [Transport α T]

/-- The stream was started or paused once at most, and not moved. -/
inductive Kept : Stream T → Stream T → Prop where
  | same (stream : Stream T) : Kept stream stream
  | played {before after : Stream T} (started : before.play = .ok after) : Kept before after
  | paused (stream : Stream T) : Kept stream stream.pause.1

/-- The stream may have been moved once after that. -/
inductive Led [Scalar α] (before : Stream T) : Stream T → Prop where
  | kept {after : Stream T} (kept : Kept before after) : Led before after
  | sought {held : Stream T} (kept : Kept before held) (time : α) : Led before (held.seek time).1

end Stream

/-- What a transport tells is a turn or a remark. -/
theorem Notification.turn_or_remark (notification : Notification) :
    (∃ turn : Turn, turn.notification = notification) ∨
      ∃ remark : Remark, remark.notification = notification := by
  cases notification with
  | timeUpdate => exact Or.inr ⟨.timeUpdate, rfl⟩
  | progress => exact Or.inr ⟨.progress, rfl⟩
  | canPlay => exact Or.inr ⟨.canPlay, rfl⟩
  | play => exact Or.inl ⟨.play, rfl⟩
  | pause => exact Or.inl ⟨.pause, rfl⟩
  | error message => exact Or.inr ⟨.error message, rfl⟩

namespace Player

/-! ### Changes apart from the track -/

section Apart

variable {α T G S F : Type}

/-- The follower did not notice anything, and nothing was queued that shows the track or the time. -/
structure Apart (before after : Player α T G S F) : Prop where
  table : after.table = before.table
  follower : after.follower = before.follower
  effects : ∃ queued, after.effects = before.effects ++ queued ∧
    ∀ effect ∈ queued, effect.isApart = true

theorem Apart.of_same {before after : Player α T G S F} (table : after.table = before.table)
    (follower : after.follower = before.follower) (effects : after.effects = before.effects) :
    Apart before after :=
  ⟨table, follower, [], effects.trans (List.append_nil _).symm,
    fun _ member => absurd member List.not_mem_nil⟩

theorem Apart.refl (player : Player α T G S F) : Apart player player := .of_same rfl rfl rfl

theorem Apart.trans {first second third : Player α T G S F} (earlier : Apart first second)
    (later : Apart second third) : Apart first third := by
  obtain ⟨queued, effects, apart⟩ := earlier.effects
  obtain ⟨more, laterEffects, laterApart⟩ := later.effects
  refine ⟨later.table.trans earlier.table, later.follower.trans earlier.follower, queued ++ more,
    ?_, fun effect member => ?_⟩
  · rw [laterEffects, effects, List.append_assoc]
  · rcases List.mem_append.mp member with early | late
    · exact apart effect early
    · exact laterApart effect late

theorem apart_queue (player : Player α T G S F) {effects : List (Effect α)}
    (apart : ∀ effect ∈ effects, effect.isApart = true) : Apart player (player.queue effects) :=
  ⟨rfl, rfl, effects, rfl, apart⟩

theorem apart_startStream [Transport α T] (player : Player α T G S F) :
    Apart player player.startStream := by
  unfold startStream
  split <;> exact .of_same rfl rfl rfl

theorem apart_volumeChanged [Scalar α] [GainStage α G] [PreferenceStore S]
    (player : Player α T G S F) : Apart player player.volumeChanged :=
  ⟨rfl, rfl, [player.volumeEffect], rfl, by simp [volumeEffect, Effect.isApart]⟩

theorem apart_updateBuffered [Scalar α] [Transport α T] (player : Player α T G S F) :
    Apart player player.updateBuffered := by
  unfold updateBuffered
  split
  · exact apart_queue player (by simp [Effect.isApart])
  · exact .refl player

theorem apart_openingEffects [Scalar α] [GainStage α G] (player : Player α T G S F) :
    ∀ effect ∈ player.openingEffects, effect.isApart = true := by
  unfold openingEffects hidingEffects durationEffects skipEffect
  split <;> split <;> simp [Effect.isApart]

theorem apart_attachSource [Transport α T] (player : Player α T G S F) (format : Option StreamFormat)
    (endpoint : Endpoint) :
    Apart player (player.orUnchanged (player.attachSource format endpoint)) := by
  refine orUnchanged_induction (.refl player) fun after succeeded => ?_
  unfold attachSource at succeeded
  cases format with
  | none =>
    obtain rfl := Except.ok.inj succeeded
    exact ⟨rfl, rfl, [_], rfl, by simp [Effect.isApart]⟩
  | some format =>
    dsimp only at succeeded
    split at succeeded
    · cases succeeded
    · obtain rfl := Except.ok.inj succeeded
      exact .of_same rfl rfl rfl

/-- Telling of lyrics writes to the follower, which stays in its track. -/
theorem registerLyrics_eq (player : Player α T G S F) (slug : String) (isOpen : Bool) :
    ∃ follower, follower.current = player.follower.current ∧
      player.orUnchanged (player.registerLyrics slug isOpen) = { player with follower } := by
  unfold registerLyrics
  split
  · rename_i index _
    exact ⟨player.follower.register index isOpen, rfl, rfl⟩
  · exact ⟨player.follower, rfl, rfl⟩

theorem lyricsToggled_eq (player : Player α T G S F) (slug : String) (isOpen : Bool) :
    ∃ follower, follower.current = player.follower.current ∧
      player.orUnchanged (player.lyricsToggled slug isOpen) = { player with follower } := by
  unfold lyricsToggled
  split
  · rename_i index _
    refine ⟨player.follower.setOpen index isOpen, ?_, rfl⟩
    rcases player.follower.setOpen_eq index isOpen with noted | unchanged
    · rw [noted]
      rfl
    · rw [unchanged]
  · exact ⟨player.follower, rfl, rfl⟩

end Apart

/-! ### Following the stream -/

section Follow

variable {α T G S F : Type} [Scalar α] [Transport α T] {player : Player α T G S F}

theorem followStream_of_unchanged
    (unchanged : player.follower.observe player.table player.stream.position =
      (player.follower, none)) : player.followStream = player := by
  unfold followStream
  dsimp only
  rw [unchanged]

theorem followStream_of_same {track : Track α}
    (covered : player.table.trackAt? player.stream.position = some track)
    (same : track.index = player.follower.current) : player.followStream = player :=
  followStream_of_unchanged (Follower.observe_of_same covered same)

/-- The player as it reaches a track, before it shows that. -/
def reached (player : Player α T G S F) (index : Nat) : Player α T G S F :=
  { player with follower := (player.follower.moveTo index).1 }

theorem followStream_of_other {track : Track α}
    (covered : player.table.trackAt? player.stream.position = some track)
    (other : track.index ≠ player.follower.current) : ∃ log,
      player.followStream = ((player.reached track.index).queue
        ((player.reached track.index).changeEffects
          (player.follower.moveTo track.index).2)).tell log := by
  have changed := Follower.observe_of_other covered other
  refine ⟨[Follower.changeLog (player.follower.moveTo track.index).2 player.stream.position], ?_⟩
  unfold followStream
  dsimp only
  rw [changed]
  rfl

theorem updateTime_of_uncovered
    (uncovered : player.table.trackAt? player.stream.position = none) :
    player.updateTime = player := by
  unfold updateTime
  dsimp only
  rw [uncovered]
  exact followStream_of_unchanged (Follower.observe_of_uncovered uncovered)

/-- In a track the page is brought up to date by following the stream and showing the time. -/
theorem updateTime_of_covered {track : Track α}
    (covered : player.table.trackAt? player.stream.position = some track) :
    Apart (player.followStream.queue (timeEffects track player.stream.position))
      player.updateTime := by
  unfold updateTime
  dsimp only
  rw [covered]
  exact apart_updateBuffered _

theorem stream_updateTime (player : Player α T G S F) : player.updateTime.stream = player.stream := by
  obtain ⟨effects, log, updated⟩ := player.updateTime_eq
  rw [updated]

end Follow

/-! ### Rounds -/

section Rounds

variable {α T G S F : Type} [Scalar α] [Transport α T]

/-- A handler leaves the stream where it is, or it may move it, and brings the page up to date. -/
inductive Round (before after : Player α T G S F) : Prop where
  | rest (apart : Apart before after) (kept : before.stream.Kept after.stream) :
      Round before after
  | update (middle : Player α T G S F) (earlier : Apart before middle)
      (led : before.stream.Led middle.stream) (later : Apart middle.updateTime after)
      (kept : middle.stream.Kept after.stream) : Round before after

theorem round_of_still {before after : Player α T G S F} (apart : Apart before after)
    (still : after.stream = before.stream) : Round before after := by
  refine .rest apart ?_
  rw [still]
  exact .same _

/-- A round may be preceded by what leaves the stream alone. -/
theorem Round.after_apart {before held after : Player α T G S F} (earlier : Apart before held)
    (still : held.stream = before.stream) (round : Round held after) : Round before after := by
  cases round with
  | rest apart kept =>
    rw [still] at kept
    exact .rest (earlier.trans apart) kept
  | update middle apart led later kept =>
    rw [still] at led
    exact .update middle (earlier.trans apart) led later kept

/-- Whatever comes before that and leaves the stream alone, a handler may end with bringing the page up
to date. -/
theorem round_updateTime {before middle : Player α T G S F} (earlier : Apart before middle)
    (still : middle.stream = before.stream) : Round before middle.updateTime := by
  refine .update middle earlier ?_ (.refl _) ?_
  · rw [still]
    exact .kept (.same _)
  · rw [stream_updateTime]
    exact .same _

/-- A handler may pause the stream, move it and bring the page up to date. -/
theorem round_updateTime_seek {before held : Player α T G S F} (earlier : Apart before held)
    (kept : before.stream.Kept held.stream) (time : α) :
    Round before (held.seek time).updateTime := by
  refine .update (held.seek time) (earlier.trans (.of_same rfl rfl rfl)) (.sought kept time)
    (.refl _) ?_
  rw [stream_updateTime]
  exact .same _

omit [Scalar α] in
theorem kept_startStream (player : Player α T G S F) :
    player.stream.Kept player.startStream.stream := by
  unfold startStream
  split
  · rename_i stream started
    exact .played started
  · exact .same _

theorem round_startStream (player : Player α T G S F) : Round player player.startStream :=
  .rest (apart_startStream player) (kept_startStream player)

theorem round_togglePlay (player : Player α T G S F) : Round player player.togglePlay := by
  unfold togglePlay
  split
  · exact round_startStream player
  · exact .rest (.of_same rfl rfl rfl) (.paused _)

theorem round_goTo (player : Player α T G S F) (index : Nat) : Round player (player.goTo index) := by
  unfold goTo
  split
  · exact round_updateTime_seek (.refl player) (.same _) _
  · exact round_of_still (.refl player) rfl

/-- After going to a track the stream may be started. -/
theorem round_startStream_goTo (player : Player α T G S F) (index : Nat) :
    Round player (player.goTo index).startStream := by
  unfold goTo
  split
  · rename_i track _
    refine .update (player.seek track.starts) (.of_same rfl rfl rfl) (.sought (.same _) _)
      (apart_startStream _) ?_
    have kept := kept_startStream (player.seek track.starts).updateTime
    rw [stream_updateTime] at kept
    exact kept
  · exact round_startStream player

theorem round_pointerUp (player : Player α T G S F) : Round player player.pointerUp := by
  unfold pointerUp
  dsimp only
  split
  · refine .rest ?_ (kept_startStream { player with drag := none })
    have released : Apart player { player with drag := none } := .of_same rfl rfl rfl
    exact (released.trans (apart_startStream _)).trans
      ⟨rfl, rfl, [.setVolumeDropOpen false], rfl, by simp [Effect.isApart]⟩
  · exact round_of_still ⟨rfl, rfl, [_], rfl, by simp [Effect.isApart]⟩ rfl

theorem round_trackButton (player : Player α T G S F) (slug : String) :
    Round player (player.orUnchanged (player.trackButton slug)) := by
  refine orUnchanged_induction (round_of_still (.refl player) rfl) fun after succeeded => ?_
  unfold trackButton at succeeded
  split at succeeded
  · cases succeeded
  · split at succeeded
    · obtain rfl := Except.ok.inj succeeded
      exact round_togglePlay player
    · obtain rfl := Except.ok.inj succeeded
      exact round_startStream_goTo player _

variable [GainStage α G] [PreferenceStore S]

omit [Transport α T] in
theorem apart_dragVolume (player : Player α T G S F) (bar : Bar α) (x y : α) :
    Apart player (player.dragVolume bar x y) :=
  ⟨rfl, rfl, [_], rfl, by simp [volumeEffect, Effect.isApart]⟩

theorem round_pointerMove (player : Player α T G S F) (x y : α) :
    Round player (player.pointerMove x y) := by
  unfold pointerMove
  split
  · exact round_updateTime_seek (.refl player) (.same _) _
  · exact round_of_still (apart_dragVolume player _ x y) rfl
  · exact round_of_still (.refl player) rfl

theorem round_toggleReplaygain (player : Player α T G S F) : Round player player.toggleReplaygain := by
  refine round_of_still ⟨rfl, rfl, [_, _], List.append_assoc _ _ _, ?_⟩ rfl
  simp [volumeEffect, Effect.isApart]

end Rounds

end Player

/-- Whether a command has to do neither with attaching a stream nor with lyrics. -/
def Command.isPlain {α : Type} : Command α → Bool
  | .attach _ _ => false
  | .registerLyrics _ _ => false
  | .toggleLyrics _ _ => false
  | _ => true

namespace Player

variable {α T G S F : Type} [Scalar α] [Transport α T]

/-- Every command but those that attach a stream or tell of lyrics is a round. -/
theorem round_perform [GainStage α G] [PreferenceStore S] (player : Player α T G S F)
    {command : Command α} (plain : command.isPlain = true) :
    Round player (player.perform command) := by
  cases command with
  | attach format endpoint => cases plain
  | registerLyrics slug isOpen => cases plain
  | toggleLyrics slug isOpen => cases plain
  | render =>
    have opened := apart_queue player player.apart_openingEffects
    exact round_updateTime (opened.trans (apart_volumeChanged _)) rfl
  | seekDown bar x =>
    have pressed : Apart player { player.pauseStream with drag := some (.seek bar) } :=
      .of_same rfl rfl rfl
    exact round_updateTime_seek pressed (.paused player.stream) _
  | volumeDown bar x y =>
    have pressed : Apart player
        (({ player with drag := some (.volume bar) } : Player α T G S F).queue
          [.setVolumeDropOpen true]) :=
      ⟨rfl, rfl, [_], rfl, by simp [Effect.isApart]⟩
    exact round_of_still (pressed.trans (apart_dragVolume _ bar x y)) rfl
  | move x y => exact round_pointerMove player x y
  | up => exact round_pointerUp player
  | togglePlay => exact round_togglePlay player
  | skipPrevious =>
    show Round player player.skipPrevious
    unfold skipPrevious
    split
    · exact round_of_still (.refl player) rfl
    · exact round_goTo player _
  | skipNext =>
    show Round player player.skipNext
    unfold skipNext
    split
    · exact round_of_still (.refl player) rfl
    · exact round_goTo player _
  | trackButton slug => exact round_trackButton player slug
  | toggleMute =>
    exact round_of_still ⟨rfl, rfl, [_], rfl, by simp [volumeEffect, Effect.isApart]⟩ rfl
  | toggleReplaygain => exact round_toggleReplaygain player

/-- A command that is not plain attaches a stream, or writes to the follower, which stays in its
track. -/
theorem perform_of_not_plain [GainStage α G] [PreferenceStore S]
    (player : Player α T G S F) {command : Command α} (notPlain : command.isPlain = false) :
    (∃ format endpoint, command = .attach format endpoint) ∨
      ∃ follower, follower.current = player.follower.current ∧
        player.perform command = { player with follower } := by
  cases command with
  | attach format endpoint => exact Or.inl ⟨format, endpoint, rfl⟩
  | registerLyrics slug isOpen => exact Or.inr (player.registerLyrics_eq slug isOpen)
  | toggleLyrics slug isOpen => exact Or.inr (player.lyricsToggled_eq slug isOpen)
  | _ => cases notPlain

variable [FrameSource F]

theorem round_remark (player : Player α T G S F) (remark : Remark) :
    Round player (player.notify remark.notification) := by
  cases remark with
  | timeUpdate => exact round_updateTime (.refl player) rfl
  | progress =>
    refine round_of_still (apart_updateBuffered player) ?_
    obtain ⟨effects, updated⟩ := player.updateBuffered_eq
    show player.updateBuffered.stream = player.stream
    rw [updated]
    rfl
  | canPlay => exact round_of_still (apart_queue player (by simp [Effect.isApart])) rfl
  | error message => exact round_of_still (.of_same rfl rfl rfl) rfl

theorem round_onFrame (player : Player α T G S F) : Round player player.onFrame := by
  refine .update player (.refl player) (.kept (.same _)) (.of_same rfl rfl rfl) ?_
  show player.stream.Kept player.updateTime.stream
  rw [stream_updateTime]
  exact .same _

/-! ### Turns -/

/-- The effects by which a turn is shown; a drag along the seek bar keeps it from the buttons. -/
def turnEffects (player : Player α T G S F) (turn : Turn) : List (Effect α) :=
  if player.isSeekDragging then []
  else
    [.swapClass .global turn.swap.1 turn.swap.2,
      .swapClass (.track player.currentTrack.slug) turn.swap.1 turn.swap.2]

/-- A turn that is told is shown, starts or stops the ticker, and changes nothing else. -/
theorem notify_turn_eq (player : Player α T G S F) (turn : Turn) : ∃ ticker log,
    player.notify turn.notification =
      { player with ticker, log, effects := player.effects ++ player.turnEffects turn } := by
  unfold turnEffects
  cases turn with
  | play =>
    show ∃ ticker log, (if player.isSeekDragging then player
      else (player.swapControls .play .pause).startTicker) = _
    split
    · exact ⟨player.ticker, player.log, by rw [List.append_nil]⟩
    · exact ⟨_, _, rfl⟩
  | pause =>
    show ∃ ticker log, (if player.isSeekDragging then { player with ticker := player.ticker.stop }
      else ({ player with ticker := player.ticker.stop } : Player α T G S F).swapControls
        .pause .play) = _
    split
    · exact ⟨player.ticker.stop, player.log, by rw [List.append_nil]⟩
    · exact ⟨player.ticker.stop, player.log, rfl⟩

end Player

end ReleasePlayer
