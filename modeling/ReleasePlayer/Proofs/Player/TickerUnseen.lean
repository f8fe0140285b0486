/-
This file proves that no command looks at the ticker. Whatever ticker a player has, even one with
frames of another kind, a command does the same to all the rest of it and leaves the ticker where it
is. Only turns of the transport and frames have to do with the ticker, and they ask it for nothing
but to start, to stop and to go on.
-/

import ReleasePlayer.Proofs.Player.Step

namespace ReleasePlayer.Player

/-- A player with another ticker. -/
def withTicker {α T G S F F' : Type} (player : Player α T G S F) (ticker : Ticker F') :
    Player α T G S F' :=
  { player with ticker }

section Parts

variable {α T G S F F' : Type} (player : Player α T G S F) (ticker : Ticker F')

@[simp] theorem table_withTicker : (player.withTicker ticker).table = player.table := rfl

@[simp] theorem stream_withTicker : (player.withTicker ticker).stream = player.stream := rfl

@[simp] theorem drag_withTicker : (player.withTicker ticker).drag = player.drag := rfl

@[simp] theorem releaseSlug_withTicker :
    (player.withTicker ticker).releaseSlug = player.releaseSlug := rfl

@[simp] theorem overrideSlug_withTicker :
    (player.withTicker ticker).overrideSlug = player.overrideSlug := rfl

@[simp] theorem indexOf_withTicker (slug : String) :
    (player.withTicker ticker).indexOf slug = player.indexOf slug := rfl

end Parts

variable {α T G S F F' : Type} [Scalar α] [Transport α T]

/-! ### Handlers that cannot fail -/

omit [Scalar α] in
/-- Whether the stream starts is asked of the transport alone. -/
theorem withTicker_startStream (player : Player α T G S F) (ticker : Ticker F') :
    (player.withTicker ticker).startStream = player.startStream.withTicker ticker := by
  cases player with | mk table stream =>
  unfold startStream
  dsimp only [withTicker]
  cases stream.play <;> rfl

theorem withTicker_updateBuffered (player : Player α T G S F) (ticker : Ticker F') :
    (player.withTicker ticker).updateBuffered = player.updateBuffered.withTicker ticker := by
  cases player with | mk table stream =>
  unfold updateBuffered
  dsimp only [withTicker]
  cases stream.bufferedEnd <;> rfl

theorem withTicker_followStream (player : Player α T G S F) (ticker : Ticker F') :
    (player.withTicker ticker).followStream = player.followStream.withTicker ticker := by
  cases player with | mk table stream _ _ _ follower =>
  unfold followStream
  dsimp only [withTicker]
  obtain ⟨follower, _ | change⟩ := follower.observe table stream.position <;> rfl

/-- Bringing the page up to date follows the stream and shows what is fetched, of which neither asks
the ticker. -/
theorem withTicker_updateTime (player : Player α T G S F) (ticker : Ticker F') :
    (player.withTicker ticker).updateTime = player.updateTime.withTicker ticker := by
  have followed := player.withTicker_followStream ticker
  have shown (track : Track α) := withTicker_updateBuffered
    (player.followStream.queue (timeEffects track player.stream.position)) ticker
  unfold updateTime
  dsimp only
  rw [followed, table_withTicker, stream_withTicker]
  cases player.table.trackAt? player.stream.position with
  | none => rfl
  | some track => exact shown track

theorem withTicker_dragSeek (player : Player α T G S F) (ticker : Ticker F') (bar : Bar α) (x : α) :
    (player.withTicker ticker).dragSeek bar x = (player.dragSeek bar x).withTicker ticker :=
  withTicker_updateTime (player.seek (player.currentTrack.timeAt (bar.across x))) ticker

omit [Scalar α] in
/-- A stream that goes on after a drag has the ticker started when it tells of that, not before. -/
theorem withTicker_pointerUp (player : Player α T G S F) (ticker : Ticker F') :
    (player.withTicker ticker).pointerUp = player.pointerUp.withTicker ticker := by
  have resumed := withTicker_startStream { player with drag := none } ticker
  unfold pointerUp
  dsimp only
  show Player.queue (if player.isSeekDragging then
    Player.startStream (withTicker { player with drag := none } ticker)
    else withTicker { player with drag := none } ticker) _ = _
  rw [resumed]
  split <;> rfl

omit [Scalar α] in
theorem withTicker_togglePlay (player : Player α T G S F) (ticker : Ticker F') :
    (player.withTicker ticker).togglePlay = player.togglePlay.withTicker ticker := by
  have started := player.withTicker_startStream ticker
  unfold togglePlay
  rw [started]
  show (if player.stream.isPaused then _ else _) = _
  split <;> rfl

/-- Going to a track moves the stream, whether the ticker runs or not. -/
theorem withTicker_goTo (player : Player α T G S F) (ticker : Ticker F') (index : Nat) :
    (player.withTicker ticker).goTo index = (player.goTo index).withTicker ticker := by
  unfold goTo
  rw [table_withTicker]
  cases player.table.get? index with
  | none => rfl
  | some track => exact withTicker_updateTime (player.seek track.starts) ticker

theorem withTicker_skipPrevious (player : Player α T G S F) (ticker : Ticker F') :
    (player.withTicker ticker).skipPrevious = player.skipPrevious.withTicker ticker := by
  have gone := player.withTicker_goTo ticker (player.follower.current - 1)
  unfold skipPrevious
  show (if player.follower.current = 0 then _ else _) = _
  split
  · rfl
  · exact gone

theorem withTicker_skipNext (player : Player α T G S F) (ticker : Ticker F') :
    (player.withTicker ticker).skipNext = player.skipNext.withTicker ticker := by
  have gone := player.withTicker_goTo ticker (player.follower.current + 1)
  unfold skipNext
  show (if player.table.lastIndex ≤ player.follower.current then _ else _) = _
  split
  · rfl
  · exact gone

/-- Both kinds of drags pass the ticker by. -/
theorem withTicker_pointerMove [GainStage α G] [PreferenceStore S] (player : Player α T G S F)
    (ticker : Ticker F') (x y : α) :
    (player.withTicker ticker).pointerMove x y = (player.pointerMove x y).withTicker ticker := by
  have sought (bar : Bar α) := player.withTicker_dragSeek ticker bar x
  unfold pointerMove
  rw [drag_withTicker]
  rcases player.drag with _ | bar | bar
  · rfl
  · exact sought bar
  · rfl

/-! ### Handlers that can fail -/

omit [Scalar α] [Transport α T] in
/-- A handler that does the same with another ticker leaves the same behind. -/
theorem withTicker_orUnchanged (player : Player α T G S F) (ticker : Ticker F')
    {outcome : Except PlaybackError (Player α T G S F)}
    {other : Except PlaybackError (Player α T G S F')}
    (same : other = outcome.map fun after => after.withTicker ticker) :
    (player.withTicker ticker).orUnchanged other =
      (player.orUnchanged outcome).withTicker ticker := by
  subst same
  cases outcome <;> rfl

/-- The button of a row toggles or goes to a track, and fails for the same slugs. -/
theorem withTicker_trackButton (player : Player α T G S F) (ticker : Ticker F') (slug : String) :
    (player.withTicker ticker).trackButton slug =
      (player.trackButton slug).map fun after => after.withTicker ticker := by
  have toggled := player.withTicker_togglePlay ticker
  have gone (index : Nat) : ((player.withTicker ticker).goTo index).startStream =
      (player.goTo index).startStream.withTicker ticker := by
    rw [withTicker_goTo, withTicker_startStream]
  unfold trackButton
  rw [toggled, indexOf_withTicker]
  simp only [gone]
  cases player.indexOf slug with
  | error error => rfl
  | ok index =>
    dsimp only
    show (if index = player.follower.current then _ else _) = _
    split <;> rfl

omit [Scalar α] in
theorem withTicker_attachSource (player : Player α T G S F) (ticker : Ticker F')
    (format : Option StreamFormat) (endpoint : Endpoint) :
    (player.withTicker ticker).attachSource format endpoint =
      (player.attachSource format endpoint).map fun after => after.withTicker ticker := by
  unfold attachSource
  cases format with
  | none => rfl
  | some format =>
    dsimp only
    rw [releaseSlug_withTicker, overrideSlug_withTicker, table_withTicker]
    cases endpoint.streamAddress player.releaseSlug player.overrideSlug
      player.table.first.slug format.name <;> rfl

omit [Scalar α] [Transport α T] in
theorem withTicker_registerLyrics (player : Player α T G S F) (ticker : Ticker F') (slug : String)
    (isOpen : Bool) :
    (player.withTicker ticker).registerLyrics slug isOpen =
      (player.registerLyrics slug isOpen).map fun after => after.withTicker ticker := by
  unfold registerLyrics
  rw [indexOf_withTicker]
  cases player.indexOf slug <;> rfl

omit [Scalar α] [Transport α T] in
theorem withTicker_lyricsToggled (player : Player α T G S F) (ticker : Ticker F') (slug : String)
    (isOpen : Bool) :
    (player.withTicker ticker).lyricsToggled slug isOpen =
      (player.lyricsToggled slug isOpen).map fun after => after.withTicker ticker := by
  unfold lyricsToggled
  rw [indexOf_withTicker]
  cases player.indexOf slug <;> rfl

/-! ### Commands -/

/-- A command does the same whatever the ticker is, and leaves the ticker as it is. -/
theorem withTicker_perform [GainStage α G] [PreferenceStore S] (player : Player α T G S F)
    (ticker : Ticker F') (command : Command α) :
    (player.withTicker ticker).perform command = (player.perform command).withTicker ticker := by
  cases command with
  | attach format endpoint =>
    exact withTicker_orUnchanged player ticker (withTicker_attachSource player ticker format endpoint)
  | render =>
    exact withTicker_updateTime (player.queue player.openingEffects).volumeChanged ticker
  | registerLyrics slug isOpen =>
    exact withTicker_orUnchanged player ticker (withTicker_registerLyrics player ticker slug isOpen)
  | toggleLyrics slug isOpen =>
    exact withTicker_orUnchanged player ticker (withTicker_lyricsToggled player ticker slug isOpen)
  | seekDown bar x =>
    exact withTicker_dragSeek { player.pauseStream with drag := some (.seek bar) } ticker bar x
  | volumeDown bar x y => rfl
  | move x y => exact withTicker_pointerMove player ticker x y
  | up => exact withTicker_pointerUp player ticker
  | togglePlay => exact withTicker_togglePlay player ticker
  | skipPrevious => exact withTicker_skipPrevious player ticker
  | skipNext => exact withTicker_skipNext player ticker
  | trackButton slug =>
    exact withTicker_orUnchanged player ticker (withTicker_trackButton player ticker slug)
  | toggleMute => rfl
  | toggleReplaygain => rfl

end ReleasePlayer.Player
