/-
This file holds the player: the stream, the track it is in, the volume, the preferences and the
ticker, each kept by its own part, and the handlers that bring them together. A handler takes what
the listener or the transport did, changes the parts, and queues what the page has to do about it.
-/

import ReleasePlayer.Effect
import ReleasePlayer.Endpoint
import ReleasePlayer.Follower
import ReleasePlayer.Preferences
import ReleasePlayer.Ticker

namespace ReleasePlayer

/-- A bar that the pointer was pressed on and is dragged along. -/
inductive Drag (α : Type) where
  | seek (bar : Bar α)
  | volume (bar : Bar α)
deriving DecidableEq, Repr

/-- Why a player cannot be set up. -/
inductive SetupError (α : Type) where
  | config (error : ConfigError α)
  | table (fault : TableFault α)
deriving DecidableEq, Repr

/-- The wording of it. -/
def SetupError.message {α : Type} [Scalar α] : SetupError α → String
  | config error => error.message
  | table fault => fault.message

structure Player (α T G S F : Type) where
  table : TrackTable α
  stream : Stream T
  volume : VolumeControl α G
  store : S
  ticker : Ticker F
  follower : Follower
  hideTitle : Bool
  volumeBar : BarAxis
  releaseSlug : Option String
  overrideSlug : Option String
  /-- The format that streams. -/
  format : Option StreamFormat
  drag : Option (Drag α)
  /-- What the page has to do, and was not told yet. -/
  effects : List (Effect α)
  /-- What the player has told of its work. -/
  log : List Log.Entry
deriving DecidableEq, Repr

namespace Player

variable {α T G S F : Type} [Scalar α] [Transport α T] [GainStage α G] [PreferenceStore S]
  [FrameSource F]

/-! ### Small steps -/

/-- Queues effects. -/
def queue (player : Player α T G S F) (effects : List (Effect α)) : Player α T G S F :=
  { player with effects := player.effects ++ effects }

/-- Tells something. -/
def tell (player : Player α T G S F) (log : List Log.Entry) : Player α T G S F :=
  { player with log := player.log ++ log }

/-- Hands over the queued effects. -/
def drainEffects (player : Player α T G S F) : List (Effect α) × Player α T G S F :=
  (player.effects, { player with effects := [] })

/-- Hands over what was told. -/
def drainLog (player : Player α T G S F) : List Log.Entry × Player α T G S F :=
  (player.log, { player with log := [] })

/-- The track that the player is in. -/
def currentTrack (player : Player α T G S F) : Track α :=
  (player.table.get? player.follower.current).getD player.table.first

/-- The place of the track with a slug. -/
def indexOf (player : Player α T G S F) (slug : String) : Except PlaybackError Nat :=
  match player.table.ofSlug? slug with
  | some track => .ok track.index
  | none => .error (.unknownTrack slug)

def isSeekDragging (player : Player α T G S F) : Bool :=
  match player.drag with
  | some (.seek _) => true
  | _ => false

def isVolumeDragging (player : Player α T G S F) : Bool :=
  match player.drag with
  | some (.volume _) => true
  | _ => false

/-- Starts the stream, and tells if that is refused. -/
def startStream (player : Player α T G S F) : Player α T G S F :=
  match player.stream.play with
  | .ok stream => { player with stream }
  | .error error => player.tell [Log.warn ("Can't start playback: " ++ error.message)]

/-- Pauses the stream. -/
def pauseStream (player : Player α T G S F) : Player α T G S F :=
  let (stream, log) := player.stream.pause
  { player with stream }.tell log

/-- Moves the stream. -/
def seek (player : Player α T G S F) (time : α) : Player α T G S F :=
  let (stream, log) := player.stream.seek time
  { player with stream }.tell log

/-- Starts the ticker. -/
def startTicker (player : Player α T G S F) : Player α T G S F :=
  let (ticker, log) := player.ticker.start
  { player with ticker }.tell log

/-! ### Keeping the page up to date -/

/-- Shows which skip buttons lead anywhere. -/
def skipEffect (player : Player α T G S F) : Effect α :=
  .setSkipState (player.table.skipFlags player.follower.current)

/-- Shows how much is fetched. -/
def updateBuffered (player : Player α T G S F) : Player α T G S F :=
  match player.stream.bufferedEnd with
  | some time => player.queue [.setBuffered (player.currentTrack.filledAt time)]
  | none => player

/-- Opens or closes the lyrics of a track, if there is one. -/
def lyricsEffects (table : TrackTable α) (index : Option Nat) (isOpen : Bool) :
    List (Effect α) :=
  match index.bind table.get? with
  | some track => [.setLyricsOpen track.slug isOpen]
  | none => []

/-- Shows that a track was left. -/
def leftEffects (table : TrackTable α) (index : Nat) : List (Effect α) :=
  match table.get? index with
  | some track => [.swapClass (.track track.slug) .pause .play]
  | none => []

/-- Shows that the player is in another track. -/
def changeEffects (player : Player α T G S F) (change : TrackChange) : List (Effect α) :=
  leftEffects player.table change.previous ++
    lyricsEffects player.table change.closeLyrics false ++
    lyricsEffects player.table change.openLyrics true ++
    [.setTitle player.currentTrack.title,
      .swapClass (.track player.currentTrack.slug) .play .pause,
      player.skipEffect]

/-- Follows the stream into the track it is in. -/
def followStream (player : Player α T G S F) : Player α T G S F :=
  let time := player.stream.position
  match player.follower.observe player.table time with
  | (follower, some change) =>
    let moved := { player with follower }.tell [Follower.changeLog change time]
    moved.queue (moved.changeEffects change)
  | (follower, none) => { player with follower }

/-- Shows where in a track a time is. -/
def timeEffects (track : Track α) (time : α) : List (Effect α) :=
  [.setSeekPosition (track.fractionAt time),
    .setTime (timeLabel (time - track.starts) (some track.length)) (timeLabel track.length none)]

/-- Brings the track and the time on the page up to date. -/
def updateTime (player : Player α T G S F) : Player α T G S F :=
  let followed := player.followStream
  let time := player.stream.position
  match player.table.trackAt? time with
  | some track => (followed.queue (timeEffects track time)).updateBuffered
  | none => followed

/-- Shows the volume. -/
def volumeEffect (player : Player α T G S F) : Effect α :=
  .setVolume player.volume.level player.volume.title player.volume.fill

/-- Keeps and shows the volume after it changed. -/
def volumeChanged (player : Player α T G S F) : Player α T G S F :=
  let (store, log) := Preferences.storeVolume player.store player.volume.volume
  ({ player with store }.tell log).queue [player.volumeEffect]

/-- Takes the button of the player and the one of the current track to another class. -/
def swapControls (player : Player α T G S F) (before after : ControlClass) :
    Player α T G S F :=
  player.queue
    [.swapClass .global before after,
      .swapClass (.track player.currentTrack.slug) before after]

/-! ### Setting up -/

/-- The compensation of an album, and what is told of it. -/
def albumCompensation (loudness : Option α) : Compensation α × List Log.Entry :=
  match loudness with
  | none =>
    (.unmeasured, [Log.warn "No album loudness given, compensation disabled"])
  | some loudness =>
    match Compensation.ofLoudness loudness with
    | .ok compensation => (compensation, [])
    | .error error => (.unmeasured, [Log.warn ("Ignoring album loudness: " ++ error.message)])

/-- What is told of the compensation of an album. -/
def gainLog (compensation : Compensation α) : Log.Entry :=
  Log.info ("Album gain: " ++ Scalar.hundredths compensation.decibels ++ " (" ++
    Scalar.text (referenceLevel : α) ++ "dB reference level)")

/-- Sets up a player at the volume that the listener left, without a source. -/
def new (config : Config α) (transport : T) (output : G) (store : S) (frames : F) :
    Except (SetupError α) (Player α T G S F) :=
  match config.validate with
  | .error error => .error (.config error)
  | .ok () =>
    match TrackTable.ofEntries config.tracks with
    | .error fault => .error (.table fault)
    | .ok table =>
      let (compensation, loudnessLog) := albumCompensation config.loudness
      let (preferences, storeLog) := Preferences.load store
      let (volume, volumeLog) := VolumeControl.start output compensation preferences.replaygain
      .ok {
        table, store
        stream := .ofTransport transport
        volume := volume.setVolume preferences.volume
        ticker := .ofSource frames
        follower := .start table.size
        hideTitle := config.hideTitle
        volumeBar := config.volumeBar
        releaseSlug := config.releaseSlug
        overrideSlug := config.overrideSlug
        format := none
        drag := none
        effects := []
        log := loudnessLog ++ [gainLog compensation] ++ storeLog ++ volumeLog }

/-- Shows everything for the first time. -/
def renderInitial (player : Player α T G S F) : Player α T G S F :=
  let shown := player.queue <|
    (if player.table.isSingle then [.hideSkipButtons] else []) ++
    (if player.hideTitle then [.hideTitle] else []) ++
    [.setTitle player.currentTrack.title,
      .setReplaygain player.volume.replaygain,
      player.skipEffect] ++
    player.table.toList.map fun track =>
      .setTrackDuration track.slug (timeLabel track.length none)
  shown.volumeChanged.updateTime

/-- Attaches the stream in a format; without one the player stays without a source. -/
def attachSource (player : Player α T G S F) (format : Option StreamFormat)
    (endpoint : Endpoint) : Except PlaybackError (Player α T G S F) :=
  match format with
  | none =>
    .ok <| (player.tell [Log.warn "No playable format, player left without a source"]).queue
      [.unavailable "No supported audio format"]
  | some format =>
    match endpoint.streamAddress player.releaseSlug player.overrideSlug player.table.first.slug
        format.name with
    | .error error => .error error
    | .ok url =>
      let (stream, log) := player.stream.loadSource url
      .ok <| { player with stream, format := some format }.tell
        (Log.info ("Streaming " ++ url ++ " as " ++ format.name) :: log)

/-- Notes that a track has lyrics on the page. -/
def registerLyrics (player : Player α T G S F) (slug : String) (isOpen : Bool) :
    Except PlaybackError (Player α T G S F) :=
  match player.indexOf slug with
  | .ok index => .ok { player with follower := player.follower.register index isOpen }
  | .error error => .error error

/-! ### What the transport does -/

/-- Takes in what the transport tells. While the listener drags along the seek bar, the player
pauses and plays on its own account, and the buttons stay as they are. -/
def notify (player : Player α T G S F) : Notification → Player α T G S F
  | .timeUpdate => player.updateTime
  | .progress => player.updateBuffered
  | .canPlay => player.queue [.swapClass .global .loading .play]
  | .play =>
    if player.isSeekDragging then player else (player.swapControls .play .pause).startTicker
  | .pause =>
    let stopped := { player with ticker := player.ticker.stop }
    if player.isSeekDragging then stopped else stopped.swapControls .pause .play
  | .error message => player.tell [Log.error ("Can't play: " ++ message)]

/-- Takes in a display frame. -/
def onFrame (player : Player α T G S F) : Player α T G S F :=
  let updated := player.updateTime
  let (ticker, log) := updated.ticker.afterFrame (!updated.stream.isPaused)
  { updated with ticker }.tell log

/-! ### What the pointer does -/

/-- Moves the stream to where the pointer is on the seek bar of the current track. -/
def dragSeek (player : Player α T G S F) (bar : Bar α) (x : α) : Player α T G S F :=
  (player.seek (player.currentTrack.timeAt (bar.across x))).updateTime

/-- Sets the volume to where the pointer is on the volume bar. -/
def dragVolume (player : Player α T G S F) (bar : Bar α) (x y : α) : Player α T G S F :=
  { player with volume := player.volume.setFraction (bar.along player.volumeBar x y) }.volumeChanged

/-- The pointer is pressed on the seek bar. -/
def seekPointerDown (player : Player α T G S F) (bar : Bar α) (x : α) : Player α T G S F :=
  { player.pauseStream with drag := some (.seek bar) }.dragSeek bar x

/-- The pointer is pressed on the volume bar. -/
def volumePointerDown (player : Player α T G S F) (bar : Bar α) (x y : α) :
    Player α T G S F :=
  ({ player with drag := some (.volume bar) }.queue [.setVolumeDropOpen true]).dragVolume bar x y

/-- The pointer is moved. -/
def pointerMove (player : Player α T G S F) (x y : α) : Player α T G S F :=
  match player.drag with
  | some (.seek bar) => player.dragSeek bar x
  | some (.volume bar) => player.dragVolume bar x y
  | none => player

/-- The pointer is released. A drag along the seek bar ends in playing. -/
def pointerUp (player : Player α T G S F) : Player α T G S F :=
  let released := { player with drag := none }
  let resumed := if player.isSeekDragging then released.startStream else released
  resumed.queue [.setVolumeDropOpen false]

/-! ### What the buttons do -/

/-- Plays if paused, and the other way round. -/
def togglePlay (player : Player α T G S F) : Player α T G S F :=
  if player.stream.isPaused then player.startStream else player.pauseStream

/-- Goes to the start of a track. -/
def goTo (player : Player α T G S F) (index : Nat) : Player α T G S F :=
  match player.table.get? index with
  | some track => (player.seek track.starts).updateTime
  | none => player

/-- Goes to the previous track. -/
def skipPrevious (player : Player α T G S F) : Player α T G S F :=
  if player.follower.current = 0 then player else player.goTo (player.follower.current - 1)

/-- Goes to the next track. -/
def skipNext (player : Player α T G S F) : Player α T G S F :=
  if player.table.lastIndex ≤ player.follower.current then player
  else player.goTo (player.follower.current + 1)

/-- The button in the row of a track: goes to another track and plays it, or plays and pauses the
current one. -/
def trackButton (player : Player α T G S F) (slug : String) :
    Except PlaybackError (Player α T G S F) :=
  match player.indexOf slug with
  | .error error => .error error
  | .ok index =>
    if index = player.follower.current then .ok player.togglePlay
    else .ok (player.goTo index).startStream

/-- Goes to silence and back. -/
def toggleMute (player : Player α T G S F) : Player α T G S F :=
  { player with volume := player.volume.toggleMute }.volumeChanged

/-- Switches evening out on or off. -/
def toggleReplaygain (player : Player α T G S F) : Player α T G S F :=
  let volume := player.volume.toggleReplaygain
  let (store, log) := Preferences.storeReplaygain player.store volume.replaygain
  let told := { player with volume, store }.tell
    (log ++ [Log.debug ("Replaygain " ++ Preferences.switchText volume.replaygain)])
  (told.queue [.setReplaygain volume.replaygain]).volumeChanged

/-- The listener opened or closed the lyrics of a track. -/
def lyricsToggled (player : Player α T G S F) (slug : String) (isOpen : Bool) :
    Except PlaybackError (Player α T G S F) :=
  match player.indexOf slug with
  | .ok index => .ok { player with follower := player.follower.setOpen index isOpen }
  | .error error => .error error

/-! ### What the page can ask for -/

/-- The state of the player. -/
def snapshot (player : Player α T G S F) : Snapshot α where
  currentTrackIndex := player.follower.current
  status := player.stream.status
  position := player.stream.position
  volume := player.volume.volume
  maxVolume := player.volume.maxVolume
  replaygainEnabled := player.volume.replaygain
  format := player.format.map StreamFormat.name

end Player

end ReleasePlayer
