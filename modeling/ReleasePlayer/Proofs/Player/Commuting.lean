/-
This file proves that the sound of a player and its playback do not get in each other's way. Playback
looks at the stream, the tracks, the drag and the ticker; of the volume and the store it knows nothing,
and what it queues and tells it puts behind what is there. So it does the same against any background,
which is all of a player that playback does not look at. What is done to the sound, in turn, is decided
by the sound alone, and playback leaves the sound as it is. Hence the two can be taken in either order.
They end in the same player, and each of them queues what it would have queued without the other.
-/

import ReleasePlayer.Proofs.Player.AlbumIndependence
import ReleasePlayer.Proofs.Player.FailuresUnseen

namespace ReleasePlayer

/-- The part of a player that playback does not look at. -/
structure Background (α G S : Type) where
  volume : VolumeControl α G
  store : S
  /-- What was queued before. -/
  effects : List (Effect α)
  /-- What was told before. -/
  log : List Log.Entry

namespace Player

/-! ### Players against another background -/

section Parts

variable {α T G S F : Type}

/-- The background of a player. -/
def background (player : Player α T G S F) : Background α G S :=
  ⟨player.volume, player.store, player.effects, player.log⟩

/-- A player whose queue and log are empty. -/
def afresh (player : Player α T G S F) : Player α T G S F := { player with effects := [], log := [] }

/-- A player against another background: what it queued and told comes after what is there. -/
def against (player : Player α T G S F) (background : Background α G S) : Player α T G S F :=
  { player with
    volume := background.volume
    store := background.store
    effects := background.effects ++ player.effects
    log := background.log ++ player.log }

/-- A player whose sound became another, and which queued and told something of that. -/
def resounded (player : Player α T G S F) (sound : Sound α G S) (effects : List (Effect α))
    (log : List Log.Entry) : Player α T G S F :=
  { player with
    volume := sound.volume
    store := sound.store
    effects := player.effects ++ effects
    log := player.log ++ log }

variable (player : Player α T G S F) (background : Background α G S)

theorem against_background : player.afresh.against player.background = player := by
  unfold against background afresh
  simp only [List.append_nil]

/-- A change of the sound is a change of the background. -/
theorem resounded_eq (sound : Sound α G S) (effects : List (Effect α)) (log : List Log.Entry) :
    player.resounded sound effects log = player.afresh.against
      ⟨sound.volume, sound.store, player.effects ++ effects, player.log ++ log⟩ := by
  unfold resounded against afresh
  simp only [List.append_nil]

@[simp] theorem table_against : (player.against background).table = player.table := rfl

@[simp] theorem stream_against : (player.against background).stream = player.stream := rfl

@[simp] theorem follower_against : (player.against background).follower = player.follower := rfl

@[simp] theorem currentTrack_against :
    (player.against background).currentTrack = player.currentTrack := rfl

@[simp] theorem isSeekDragging_against :
    (player.against background).isSeekDragging = player.isSeekDragging := rfl

@[simp] theorem indexOf_against (slug : String) :
    (player.against background).indexOf slug = player.indexOf slug := rfl

theorem queue_against (effects : List (Effect α)) :
    (player.against background).queue effects = (player.queue effects).against background := by
  unfold queue against
  simp only [List.append_assoc]

theorem tell_against (log : List Log.Entry) :
    (player.against background).tell log = (player.tell log).against background := by
  unfold tell against
  simp only [List.append_assoc]

theorem swapControls_against (before after : ControlClass) :
    (player.against background).swapControls before after =
      (player.swapControls before after).against background :=
  queue_against player background _

theorem startTicker_against [FrameSource F] :
    (player.against background).startTicker = player.startTicker.against background :=
  tell_against { player with ticker := player.ticker.start.1 } background _

end Parts

/-! ### Playback -/

section Playback

variable {α T G S F : Type} [Transport α T] (player : Player α T G S F)
  (background : Background α G S)

theorem startStream_against :
    (player.against background).startStream = player.startStream.against background := by
  unfold startStream
  rw [stream_against]
  cases player.stream.play with
  | ok stream => rfl
  | error error => exact tell_against player background _

theorem pauseStream_against :
    (player.against background).pauseStream = player.pauseStream.against background :=
  tell_against { player with stream := player.stream.pause.1 } background _

theorem togglePlay_against :
    (player.against background).togglePlay = player.togglePlay.against background := by
  unfold togglePlay
  rw [stream_against, startStream_against, pauseStream_against]
  split <;> rfl

variable [Scalar α]

theorem seek_against (time : α) :
    (player.against background).seek time = (player.seek time).against background :=
  tell_against { player with stream := (player.stream.seek time).1 } background _

theorem updateBuffered_against :
    (player.against background).updateBuffered = player.updateBuffered.against background := by
  unfold updateBuffered
  rw [stream_against, currentTrack_against]
  cases player.stream.bufferedEnd with
  | none => rfl
  | some time => exact queue_against player background _

theorem followStream_against :
    (player.against background).followStream = player.followStream.against background := by
  unfold followStream
  dsimp only
  rw [stream_against, table_against, follower_against]
  obtain ⟨follower, _ | change⟩ := player.follower.observe player.table player.stream.position
  · rfl
  · have told := tell_against { player with follower } background
      [Follower.changeLog change player.stream.position]
    refine (congrArg (fun moved => moved.queue (moved.changeEffects change)) told).trans ?_
    exact queue_against _ background _

theorem updateTime_against :
    (player.against background).updateTime = player.updateTime.against background := by
  unfold updateTime
  dsimp only
  rw [followStream_against, stream_against, table_against]
  cases player.table.trackAt? player.stream.position with
  | none => rfl
  | some track =>
    dsimp only
    rw [queue_against, updateBuffered_against]

theorem goTo_against (index : Nat) :
    (player.against background).goTo index = (player.goTo index).against background := by
  unfold goTo
  rw [table_against]
  cases player.table.get? index with
  | none => rfl
  | some track =>
    dsimp only
    rw [seek_against, updateTime_against]

theorem skipPrevious_against :
    (player.against background).skipPrevious = player.skipPrevious.against background := by
  unfold skipPrevious
  rw [follower_against, goTo_against]
  split <;> rfl

theorem skipNext_against :
    (player.against background).skipNext = player.skipNext.against background := by
  unfold skipNext
  rw [follower_against, table_against, goTo_against]
  split <;> rfl

theorem trackButton_against (slug : String) :
    (player.against background).trackButton slug =
      (player.trackButton slug).map fun after => after.against background := by
  unfold trackButton
  rw [indexOf_against, follower_against, togglePlay_against]
  cases player.indexOf slug with
  | error error => rfl
  | ok index =>
    dsimp only
    rw [goTo_against, startStream_against]
    split <;> rfl

omit [Transport α T] [Scalar α] in
theorem registerLyrics_against (slug : String) (isOpen : Bool) :
    (player.against background).registerLyrics slug isOpen =
      (player.registerLyrics slug isOpen).map fun after => after.against background := by
  unfold registerLyrics
  rw [indexOf_against]
  cases player.indexOf slug <;> rfl

omit [Transport α T] [Scalar α] in
theorem lyricsToggled_against (slug : String) (isOpen : Bool) :
    (player.against background).lyricsToggled slug isOpen =
      (player.lyricsToggled slug isOpen).map fun after => after.against background := by
  unfold lyricsToggled
  rw [indexOf_against]
  cases player.indexOf slug <;> rfl

omit [Transport α T] [Scalar α] in
/-- A handler that does the same against another background leaves the same behind. -/
theorem orUnchanged_against (outcome : Except PlaybackError (Player α T G S F)) :
    (player.against background).orUnchanged (outcome.map fun after => after.against background) =
      (player.orUnchanged outcome).against background := by
  cases outcome <;> rfl

variable [FrameSource F]

theorem notify_against (notification : Notification) :
    (player.against background).notify notification =
      (player.notify notification).against background := by
  cases notification with
  | timeUpdate => exact updateTime_against player background
  | progress => exact updateBuffered_against player background
  | canPlay => exact queue_against player background _
  | play =>
    unfold notify
    dsimp only
    rw [isSeekDragging_against, swapControls_against, startTicker_against]
    split <;> rfl
  | pause =>
    have swapped := swapControls_against { player with ticker := player.ticker.stop } background
      .pause .play
    unfold notify
    dsimp only
    rw [isSeekDragging_against]
    split
    · rfl
    · exact swapped
  | error message => exact tell_against player background _

theorem onFrame_against :
    (player.against background).onFrame = player.onFrame.against background := by
  have goneOn := tell_against { player.updateTime with
    ticker := (player.updateTime.ticker.afterFrame (!player.updateTime.stream.isPaused)).1 } background
    (player.updateTime.ticker.afterFrame (!player.updateTime.stream.isPaused)).2
  unfold onFrame
  rw [updateTime_against]
  exact goneOn

end Playback

end Player

/-! ### Inputs of playback and inputs of the sound -/

namespace Sound

variable {α T G S : Type} [Scalar α] [GainStage α G] [PreferenceStore S]

/-- The effect that shows the volume. -/
def shown (sound : Sound α G S) : Effect α :=
  .setVolume sound.volume.level sound.volume.title sound.volume.fill

/-- What is shown of an input that belongs to the sound. -/
def shows (sound : Sound α G S) (input : Input α T) : List (Effect α) :=
  let after := sound.take input
  (if input.isSwitch then [.setReplaygain after.volume.replaygain] else []) ++ [after.shown]

/-- What is told of storing what became of the sound. -/
def tells (sound : Sound α G S) (input : Input α T) : List Log.Entry :=
  let after := (sound.take input).volume
  if input.isSwitch then
    let (store, log) := Preferences.storeReplaygain sound.store after.replaygain
    log ++ [Log.debug ("Replaygain " ++ Preferences.switchText after.replaygain)] ++
      (Preferences.storeVolume store after.volume).2
  else (Preferences.storeVolume sound.store after.volume).2

end Sound

/-- Whether an input belongs to playback. -/
def Input.isPlayback {α T : Type} : Input α T → Bool
  | .notify _ => true
  | .frame => true
  | .command .skipPrevious => true
  | .command .skipNext => true
  | .command .togglePlay => true
  | .command (.trackButton _) => true
  | .command (.registerLyrics _ _) => true
  | .command (.toggleLyrics _ _) => true
  | _ => false

namespace Player

section Inputs

variable {α T G S F : Type} [Scalar α] [Transport α T]

/-- Whether an input belongs to the sound. A move of the pointer does while the volume is dragged. -/
def isSounding (player : Player α T G S F) : Input α T → Bool
  | .command .toggleMute => true
  | .command .toggleReplaygain => true
  | .command (.move _ _) => player.isVolumeDragging
  | _ => false

/-- What the handler of an input answers. Notifications and frames are not answered. -/
def respond (player : Player α T G S F) : Input α T → Except PlaybackError Unit
  | .command command => player.answer command
  | _ => .ok ()

theorem respond_against (player : Player α T G S F) (background : Background α G S)
    {input : Input α T} (playback : input.isPlayback = true) :
    (player.against background).respond input = player.respond input := by
  have mapped (outcome : Except PlaybackError (Player α T G S F)) :
      ((outcome.map fun after => after.against background).map fun _ => ()) =
        outcome.map fun _ => () := by
    cases outcome <;> rfl
  unfold respond answer
  cases input with
  | command command =>
    cases command with
    | trackButton slug =>
      dsimp only
      rw [trackButton_against, mapped]
    | registerLyrics slug isOpen =>
      dsimp only
      rw [registerLyrics_against, mapped]
    | toggleLyrics slug isOpen =>
      dsimp only
      rw [lyricsToggled_against, mapped]
    | skipPrevious => rfl
    | skipNext => rfl
    | togglePlay => rfl
    | _ => cases playback
  | _ => rfl

variable [GainStage α G] [PreferenceStore S] [FrameSource F]

/-- Playback does the same against any background. -/
theorem take_against (player : Player α T G S F) (background : Background α G S)
    {input : Input α T} (playback : input.isPlayback = true) :
    (player.against background).take input = (player.take input).against background := by
  cases input with
  | command command =>
    cases command with
    | skipPrevious => exact skipPrevious_against player background
    | skipNext => exact skipNext_against player background
    | togglePlay => exact togglePlay_against player background
    | trackButton slug =>
      show (player.against background).orUnchanged _ = _
      rw [trackButton_against]
      exact orUnchanged_against player background _
    | registerLyrics slug isOpen =>
      show (player.against background).orUnchanged _ = _
      rw [registerLyrics_against]
      exact orUnchanged_against player background _
    | toggleLyrics slug isOpen =>
      show (player.against background).orUnchanged _ = _
      rw [lyricsToggled_against]
      exact orUnchanged_against player background _
    | _ => cases playback
  | notify notification => exact notify_against player background notification
  | frame => exact onFrame_against player background
  | drift change => cases playback

/-- Playback is not heard. -/
theorem sound_take_of_playback (player : Player α T G S F) {input : Input α T}
    (playback : input.isPlayback = true) : (player.take input).sound = player.sound := by
  rw [sound_take]
  cases input with
  | command command =>
    cases command with
    | skipPrevious | skipNext | togglePlay | trackButton | registerLyrics | toggleLyrics => rfl
    | _ => cases playback
  | notify notification => rfl
  | frame => rfl
  | drift change => rfl

/-- The pointer and the buttons act on the sound alone, and tell of nothing else. -/
theorem take_of_sounding {player : Player α T G S F} {input : Input α T}
    (sounding : player.isSounding input = true) :
    player.take input =
      player.resounded (player.sound.take input) (player.sound.shows input)
        (player.sound.tells input) := by
  obtain ⟨_, _, _, _, _, _, _, _, _, _, _, drag, effects, log⟩ := player
  cases input with
  | command command =>
    cases command with
    | toggleMute => rfl
    | toggleReplaygain =>
      simp only [take, perform, toggleReplaygain, volumeChanged, tell, queue, resounded,
        Sound.shows, Sound.tells, List.append_assoc]
      rfl
    | move x y =>
      rcases drag with _ | bar | bar
      · cases sounding
      · cases sounding
      · rfl
    | _ => cases sounding
  | _ => cases sounding

omit [PreferenceStore S] [FrameSource F] [GainStage α G] in
theorem respond_of_sounding {player : Player α T G S F} {input : Input α T}
    (sounding : player.isSounding input = true) : player.respond input = .ok () := by
  cases input with
  | command command =>
    cases command with
    | toggleMute | toggleReplaygain | move => rfl
    | _ => cases sounding
  | _ => rfl

omit [PreferenceStore S] [FrameSource F] [Scalar α] [Transport α T] [GainStage α G] in
/-- Whether an input belongs to the sound is decided by the sound. -/
theorem isSounding_congr {player other : Player α T G S F} (same : other.sound = player.sound)
    (input : Input α T) : other.isSounding input = player.isSounding input := by
  have drag : other.drag = player.drag := congrArg Sound.drag same
  unfold isSounding isVolumeDragging
  rw [drag]

/-! ### Either order -/

/-- Two inputs do not get in each other's way: in either order they end in the same player, queue the
same and are answered alike. -/
structure Commute (player : Player α T G S F) (one other : Input α T) : Prop where
  stream : ((player.take other).take one).stream = ((player.take one).take other).stream
  ticker : ((player.take other).take one).ticker = ((player.take one).take other).ticker
  follower : ((player.take other).take one).follower = ((player.take one).take other).follower
  drag : ((player.take other).take one).drag = ((player.take one).take other).drag
  volume : ((player.take other).take one).volume = ((player.take one).take other).volume
  store : ((player.take other).take one).store = ((player.take one).take other).store
  effects : ∃ ofOne ofOther,
    (player.take one).effects = player.effects ++ ofOne ∧
    ((player.take one).take other).effects = player.effects ++ ofOne ++ ofOther ∧
    (player.take other).effects = player.effects ++ ofOther ∧
    ((player.take other).take one).effects = player.effects ++ ofOther ++ ofOne
  answers : (player.take other).respond one = player.respond one ∧
    (player.take one).respond other = player.respond other

/-- What is done to the sound and what playback does commute, whatever state the player is in. -/
theorem sound_and_playback_commute (player : Player α T G S F) {one other : Input α T}
    (sounding : player.isSounding one = true) (playback : other.isPlayback = true) :
    player.Commute one other := by
  let bare := player.afresh
  let touched : Background α G S := ⟨(player.sound.take one).volume, (player.sound.take one).store,
    player.effects ++ player.sound.shows one, player.log ++ player.sound.tells one⟩
  -- playback starts from the same bare player, whether the background has changed or not
  have whole : bare.against player.background = player := player.against_background
  have played : player.take other = (bare.take other).against player.background := by
    rw [← take_against bare player.background playback, whole]
  have sounded : player.take one = bare.against touched :=
    (take_of_sounding sounding).trans (player.resounded_eq _ _ _)
  have soundFirst : (player.take one).take other = (bare.take other).against touched := by
    rw [sounded]
    exact take_against bare touched playback
  -- and what is done to the sound starts from the same sound, whether playback went on or not
  have unheard : (player.take other).sound = player.sound := sound_take_of_playback player playback
  have playbackFirst := take_of_sounding ((isSounding_congr unheard one).trans sounding)
  rw [unheard, played] at playbackFirst
  have same : (player.take other).take one = { (player.take one).take other with
      effects := player.effects ++ (bare.take other).effects ++ player.sound.shows one
      log := player.log ++ (bare.take other).log ++ player.sound.tells one } := by
    rw [soundFirst, played, playbackFirst]
    rfl
  refine ⟨by rw [same], by rw [same], by rw [same], by rw [same], by rw [same], by rw [same],
    ⟨player.sound.shows one, (bare.take other).effects, ?_, ?_, ?_, ?_⟩, ?_, ?_⟩
  · rw [take_of_sounding sounding]
    rfl
  · rw [soundFirst]
    rfl
  · rw [played]
    rfl
  · rw [same]
  · rw [respond_of_sounding sounding,
      respond_of_sounding ((isSounding_congr unheard one).trans sounding)]
  · have answered := respond_against bare player.background playback
    rw [whole] at answered
    rw [sounded, respond_against bare touched playback, answered]

end Inputs

/-- The stream is attached and plays, and the listener presses the volume bar at its middle. -/
def draggingVolume : List (Input Float (InMemory.Deck Float)) :=
  [.command (.attach (some ⟨"opus", "audio/ogg"⟩) TwoTracks.endpoint), .command .togglePlay,
    .notify .play, .command (.volumeDown TwoTracks.bar 50.0 5.0)]

/-- The pointer is moved up the volume bar while the button in the row of the second track is
pressed. -/
theorem drag_and_button_commute :
    ∃ player, TwoTracks.setUp = .ok player ∧
      let dragging := player.takeAll draggingVolume
      let up : Input Float (InMemory.Deck Float) := .command (.move 50.0 2.5)
      let button : Input Float (InMemory.Deck Float) := .command (.trackButton "dusk")
      dragging.isSounding up = true ∧ button.isPlayback = true ∧
        (dragging.take up).volume.gain ≠ dragging.volume.gain ∧
        (dragging.take button).follower.current ≠ dragging.follower.current ∧
        dragging.Commute up button := by
  obtain ⟨player, setUp, checked⟩ := TwoTracks.exists_player (fun player =>
    let dragging := player.takeAll draggingVolume
    decide (dragging.isSounding (.command (.move 50.0 2.5) : Input Float (InMemory.Deck Float)) ∧
      (dragging.take (.command (.move 50.0 2.5))).volume.gain ≠ dragging.volume.gain ∧
      (dragging.take (.command (.trackButton "dusk"))).follower.current ≠
        dragging.follower.current)) (by decide +kernel)
  obtain ⟨sounding, louder, further⟩ := of_decide_eq_true checked
  exact ⟨player, setUp, sounding, rfl, louder, further,
    sound_and_playback_commute _ sounding rfl⟩

end Player

end ReleasePlayer
