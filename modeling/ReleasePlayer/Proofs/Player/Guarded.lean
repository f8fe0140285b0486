/-
This file writes the handlers of a player down a second time, with guarded parts. Where a handler would
look for a track that is not there, count back from nothing, or keep a number within bounds that are none,
the guarded handler gives nothing; it has no first track to fall back on either, and a change between tracks
is not shown by halves. Each guarded handler is proved to give what the handler gives, for all numbers,
as long as the tracks of the player are in order, its follower fits them, and its stream can be moved. The
first two are kept by every small step, so they are there in the middle of a handler, too.
-/

import ReleasePlayer.Proofs.Guarded
import ReleasePlayer.Proofs.Player.CurrentTrack

namespace ReleasePlayer

open InMemory (Deck)

/-! ### The invariant -/

namespace Player

section Secure

variable {α T G S F : Type} [Scalar α] {before after player : Player α T G S F}

/-- The tracks are in order, and the follower fits them. -/
structure Secure (player : Player α T G S F) : Prop where
  inOrder : player.table.InOrder
  fits : player.follower.Fits player.table

/-- A slug that is known stands for a place in the table. -/
theorem Secure.index_lt_of_indexOf (secure : player.Secure) {slug : String} {index : Nat}
    (found : player.indexOf slug = .ok index) : index < player.table.size := by
  unfold indexOf at found
  split at found
  · rename_i track first
    obtain rfl := Except.ok.inj found
    have member : track ∈ player.table.toList := List.mem_of_find?_eq_some first
    exact TrackTable.lt_size_of_get? (secure.inOrder.get?_index member)
  · cases found

variable [Scalar.Ordered α] [Transport α T]

theorem Secure.followStream (secure : player.Secure) : player.followStream.Secure := by
  obtain ⟨effects, log, followed⟩ := player.followStream_eq
  rw [followed]
  exact ⟨secure.inOrder, secure.fits.observe secure.inOrder _⟩

/-- Each small step leaves a player secure, so it is secure wherever a handler looks something up. -/
theorem Secure.step (step : Step before after) (secure : before.Secure) : after.Secure := by
  cases step with
  | register index isOpen => exact ⟨secure.inOrder, secure.fits.register index isOpen⟩
  | setOpen index isOpen => exact ⟨secure.inOrder, secure.fits.setOpen index isOpen⟩
  | follow => exact secure.followStream
  | _ => exact ⟨secure.inOrder, secure.fits⟩

end Secure

end Player

namespace Guarded

/-! ### Showing the track -/

section Track

variable {α T G S F : Type}

/-- The track that the player is in. -/
def currentTrack (player : Player α T G S F) : Option (Track α) :=
  player.table.get? player.follower.current

/-- Takes the button of the player and the one of the current track to another class. -/
def swapControls (player : Player α T G S F) (before after : ControlClass) :
    Option (Player α T G S F) := do
  let track ← currentTrack player
  some (player.queue [.swapClass .global before after, .swapClass (.track track.slug) before after])

/-- Shows which skip buttons lead anywhere. -/
def skipEffect (player : Player α T G S F) : Option (Effect α) :=
  (skipFlags player.table player.follower.current).map .setSkipState

/-- Opens or closes the lyrics of a track, if there is one to open or close. -/
def lyricsEffects (table : TrackTable α) (index : Option Nat) (isOpen : Bool) :
    Option (List (Effect α)) :=
  match index with
  | none => some []
  | some index => (table.get? index).map fun track => [.setLyricsOpen track.slug isOpen]

/-- Shows that a track was left. -/
def leftEffects (table : TrackTable α) (index : Nat) : Option (List (Effect α)) :=
  (table.get? index).map fun track => [.swapClass (.track track.slug) .pause .play]

/-- Shows that the player is in another track. -/
def changeEffects (player : Player α T G S F) (change : TrackChange) :
    Option (List (Effect α)) := do
  let left ← leftEffects player.table change.previous
  let closed ← lyricsEffects player.table change.closeLyrics false
  let opened ← lyricsEffects player.table change.openLyrics true
  let track ← currentTrack player
  let skips ← skipEffect player
  some (left ++ closed ++ opened ++
    [.setTitle track.title, .swapClass (.track track.slug) .play .pause, skips])

/-- A table has a track, so there is one to count back from. -/
theorem skipEffect_eq (player : Player α T G S F) :
    skipEffect player = some player.skipEffect := by
  unfold skipEffect
  rw [skipFlags_eq]
  rfl

/-- Only a track of the table can be left. -/
theorem leftEffects_eq {table : TrackTable α} {index : Nat} (within : index < table.size) :
    leftEffects table index = some (Player.leftEffects table index) := by
  obtain ⟨track, placed⟩ := TrackTable.exists_get?_of_lt within
  unfold leftEffects Player.leftEffects
  rw [placed]
  rfl

/-- Only panels of tracks of the table are opened or closed, or none at all. -/
theorem lyricsEffects_eq {table : TrackTable α} {index : Option Nat}
    (within : ∀ place ∈ index, place < table.size) (isOpen : Bool) :
    lyricsEffects table index isOpen = some (Player.lyricsEffects table index isOpen) := by
  cases index with
  | none => rfl
  | some index =>
    obtain ⟨track, placed⟩ := TrackTable.exists_get?_of_lt (within index rfl)
    unfold lyricsEffects Player.lyricsEffects
    dsimp only
    rw [Option.bind_some, placed]
    rfl

variable [Scalar α] {player : Player α T G S F} (secure : player.Secure)
include secure

/-- The first track never has to stand in for the current one. -/
theorem currentTrack_eq : currentTrack player = some player.currentTrack := by
  obtain ⟨track, placed⟩ := TrackTable.exists_get?_of_lt secure.fits.current
  unfold currentTrack Player.currentTrack
  rw [placed]
  rfl

theorem swapControls_eq (before after : ControlClass) :
    swapControls player before after = some (player.swapControls before after) := by
  unfold swapControls
  rw [currentTrack_eq secure]
  rfl

/-- A change between tracks of the table is shown in all its parts. -/
theorem changeEffects_eq {change : TrackChange} (fits : change.Fits player.table) :
    changeEffects player change = some (player.changeEffects change) := by
  unfold changeEffects
  rw [leftEffects_eq fits.previous, lyricsEffects_eq fits.closeLyrics,
    lyricsEffects_eq fits.openLyrics, currentTrack_eq secure, skipEffect_eq]
  rfl

end Track

/-! ### Following the stream -/

section Follow

variable {α T G S F : Type} [Scalar α] [Transport α T]

/-- Shows how much is fetched. -/
def updateBuffered (player : Player α T G S F) : Option (Player α T G S F) :=
  match player.stream.bufferedEnd with
  | none => some player
  | some time => do
    let track ← currentTrack player
    let fraction ← filledAt track time
    some (player.queue [.setBuffered fraction])

/-- Follows the stream into the track it is in. -/
def followStream (player : Player α T G S F) : Option (Player α T G S F) := do
  let time := player.stream.position
  let (follower, change) ← observe player.follower player.table time
  match change with
  | none => some { player with follower }
  | some change =>
    let moved := { player with follower }.tell [Follower.changeLog change time]
    let effects ← changeEffects moved change
    some (moved.queue effects)

/-- Brings the track and the time on the page up to date. -/
def updateTime (player : Player α T G S F) : Option (Player α T G S F) := do
  let followed ← followStream player
  let time := player.stream.position
  match player.table.trackAt? time with
  | some track => updateBuffered (followed.queue (Player.timeEffects track time))
  | none => some followed

variable [Scalar.Ordered α] {player : Player α T G S F} (secure : player.Secure)
include secure

theorem updateBuffered_eq : updateBuffered player = some player.updateBuffered := by
  unfold updateBuffered Player.updateBuffered
  cases player.stream.bufferedEnd with
  | none => rfl
  | some time =>
    simp only [currentTrack_eq secure, filledAt_eq, Option.bind_eq_bind, Option.bind_some]

/-- The change that a position brings about is shown for a follower that moved already, and that one
fits the table too. -/
theorem followStream_eq : followStream player = some player.followStream := by
  have fits := secure.fits.observe secure.inOrder player.stream.position
  have changeFits (change : TrackChange)
      (changed : (player.follower.observe player.table player.stream.position).2 = some change) :=
    secure.fits.change_observe secure.inOrder changed
  unfold followStream Player.followStream
  dsimp only
  rw [observe_eq secure.inOrder secure.fits]
  generalize player.follower.observe player.table player.stream.position = observed
    at fits changeFits ⊢
  obtain ⟨follower, _ | change⟩ := observed
  · rfl
  · let moved := { player with follower }.tell [Follower.changeLog change player.stream.position]
    have movedSecure : moved.Secure := ⟨secure.inOrder, fits⟩
    show (do
      let effects ← changeEffects moved change
      some (moved.queue effects)) = some (moved.queue (moved.changeEffects change))
    rw [changeEffects_eq movedSecure (changeFits change rfl)]
    rfl

/-- A player that followed its stream is still secure when it shows how much is fetched. -/
theorem updateTime_eq : updateTime player = some player.updateTime := by
  have followed := secure.followStream
  unfold updateTime Player.updateTime
  rw [followStream_eq secure, Option.bind_eq_bind, Option.bind_some]
  dsimp only
  cases player.table.trackAt? player.stream.position with
  | none => rfl
  | some track =>
    have shown : (player.followStream.queue
        (Player.timeEffects track player.stream.position)).Secure :=
      ⟨followed.inOrder, followed.fits⟩
    exact updateBuffered_eq shown

end Follow

/-! ### Moving the stream -/

section Move

variable {α T G S F : Type} [Scalar α] [Transport α T]

/-- Moves the stream. -/
def seek (player : Player α T G S F) (time : α) : Option (Player α T G S F) :=
  if Scalar.isFinite time then do
    let target ← player.stream.target? time
    let transport ← Transport.moveTo player.stream.transport target
    some { player with stream := { player.stream with transport } }
  else some (player.seek time)

/-- Moves the stream, and brings the page up to date. -/
def seekAndUpdate (player : Player α T G S F) (time : α) : Option (Player α T G S F) := do
  let moved ← seek player time
  updateTime moved

/-- Moves the stream to where the pointer is on the seek bar of the current track. -/
def dragSeek (player : Player α T G S F) (bar : Bar α) (x : α) : Option (Player α T G S F) := do
  let track ← currentTrack player
  let fraction ← across bar x
  let time ← timeAt track fraction
  seekAndUpdate player time

/-- Goes to the start of a track. -/
def goTo (player : Player α T G S F) (index : Nat) : Option (Player α T G S F) := do
  let track ← player.table.get? index
  seekAndUpdate player track.starts

/-- Goes to the previous track. -/
def skipPrevious (player : Player α T G S F) : Option (Player α T G S F) :=
  if player.follower.current = 0 then some player else goTo player (player.follower.current - 1)

/-- Goes to the next track. -/
def skipNext (player : Player α T G S F) : Option (Player α T G S F) := do
  let last ← lastIndex player.table
  if last ≤ player.follower.current then some player
  else goTo player (player.follower.current + 1)

/-- The button in the row of a track. -/
def trackButton (player : Player α T G S F) (slug : String) :
    Option (Except PlaybackError (Player α T G S F)) :=
  match player.indexOf slug with
  | .error error => some (.error error)
  | .ok index =>
    if index = player.follower.current then some (.ok player.togglePlay)
    else (goTo player index).map fun moved => .ok moved.startStream

variable {player : Player α (Deck α) G S F}

/-- The bounds of a stream that can be moved bound an interval, and its transport is not halted. -/
theorem seek_eq (movable : player.stream.Movable) (time : α) :
    seek player time = some (player.seek time) := by
  unfold seek
  split
  · rename_i finite
    obtain ⟨target, kept⟩ := movable.target? time
    obtain ⟨position, moved⟩ := movable.moveTo target
    have sought : player.stream.seek time =
        ({ player.stream with transport := { player.stream.transport with position } }, []) := by
      unfold Stream.seek Stream.moveTo
      rw [if_pos finite, kept, Option.bind_some, moved]
    rw [Player.seek_of_silent sought, kept, Option.bind_eq_bind, Option.bind_some, moved]
    rfl
  · rfl

variable [Scalar.Ordered α] (secure : player.Secure) (movable : player.stream.Movable)
include secure movable

theorem seekAndUpdate_eq (time : α) :
    seekAndUpdate player time = some (player.seek time).updateTime := by
  have sought : (player.seek time).Secure := ⟨secure.inOrder, secure.fits⟩
  unfold seekAndUpdate
  rw [seek_eq movable]
  exact updateTime_eq sought

theorem dragSeek_eq (bar : Bar α) (x : α) :
    dragSeek player bar x = some (player.dragSeek bar x) := by
  unfold dragSeek
  simp only [currentTrack_eq secure, across_eq, timeAt_eq, Option.bind_eq_bind, Option.bind_some]
  exact seekAndUpdate_eq secure movable _

/-- The player is only ever sent to tracks of the table. -/
theorem goTo_eq {index : Nat} (within : index < player.table.size) :
    goTo player index = some (player.goTo index) := by
  obtain ⟨track, placed⟩ := TrackTable.exists_get?_of_lt within
  unfold goTo Player.goTo
  rw [placed]
  exact seekAndUpdate_eq secure movable _

/-- Nothing is counted back from the first track, where the button does nothing. -/
theorem skipPrevious_eq : skipPrevious player = some player.skipPrevious := by
  unfold skipPrevious Player.skipPrevious
  split
  · rfl
  · exact goTo_eq secure movable (Nat.lt_of_le_of_lt (Nat.sub_le _ _) secure.fits.current)

/-- There is a track after each but the last, where the button does nothing. -/
theorem skipNext_eq : skipNext player = some player.skipNext := by
  unfold skipNext Player.skipNext
  rw [lastIndex_eq, Option.bind_eq_bind, Option.bind_some]
  split
  · rfl
  · rename_i notLast
    exact goTo_eq secure movable (Nat.succ_lt_succ (Nat.lt_of_not_le notLast))

theorem trackButton_eq (slug : String) :
    trackButton player slug = some (player.trackButton slug) := by
  unfold trackButton Player.trackButton
  cases found : player.indexOf slug with
  | error error => rfl
  | ok index =>
    dsimp only
    split
    · rfl
    · rw [goTo_eq secure movable (secure.index_lt_of_indexOf found)]
      rfl

end Move

/-! ### The stream and the lyrics of the page -/

section Page

variable {α T G S F : Type}

/-- Attaches the stream in a format. -/
def attachSource [Transport α T] (player : Player α T G S F) (format : Option StreamFormat)
    (endpoint : Endpoint) : Option (Except PlaybackError (Player α T G S F)) :=
  match format with
  | none => some (player.attachSource none endpoint)
  | some format => do
    let track ← first player.table
    match endpoint.streamAddress player.releaseSlug player.overrideSlug track.slug format.name with
    | .error error => some (.error error)
    | .ok url =>
      let (stream, log) := player.stream.loadSource url
      some (.ok ({ player with stream, format := some format }.tell
        (Log.info ("Streaming " ++ url ++ " as " ++ format.name) :: log)))

/-- Notes that a track has lyrics on the page. -/
def registerLyrics (player : Player α T G S F) (slug : String) (isOpen : Bool) :
    Option (Except PlaybackError (Player α T G S F)) :=
  match player.indexOf slug with
  | .error error => some (.error error)
  | .ok index => (register player.follower index isOpen).map fun follower =>
    .ok { player with follower }

/-- The listener opened or closed the lyrics of a track. -/
def lyricsToggled (player : Player α T G S F) (slug : String) (isOpen : Bool) :
    Option (Except PlaybackError (Player α T G S F)) :=
  match player.indexOf slug with
  | .error error => some (.error error)
  | .ok index => (setOpen player.follower index isOpen).map fun follower =>
    .ok { player with follower }

/-- The address is that of the first track, and there is always one. -/
theorem attachSource_eq [Transport α T] (player : Player α T G S F) (format : Option StreamFormat)
    (endpoint : Endpoint) :
    attachSource player format endpoint = some (player.attachSource format endpoint) := by
  cases format with
  | none => rfl
  | some format =>
    unfold attachSource Player.attachSource
    dsimp only
    rw [first_eq, Option.bind_eq_bind, Option.bind_some]
    cases endpoint.streamAddress player.releaseSlug player.overrideSlug player.table.first.slug
      format.name <;> rfl

variable [Scalar α] {player : Player α T G S F} (secure : player.Secure)
include secure

/-- A panel is noted in a place that the follower has for it. -/
theorem registerLyrics_eq (slug : String) (isOpen : Bool) :
    registerLyrics player slug isOpen = some (player.registerLyrics slug isOpen) := by
  unfold registerLyrics Player.registerLyrics
  cases found : player.indexOf slug with
  | error error => rfl
  | ok index =>
    dsimp only
    rw [register_eq secure.fits (secure.index_lt_of_indexOf found)]
    rfl

theorem lyricsToggled_eq (slug : String) (isOpen : Bool) :
    lyricsToggled player slug isOpen = some (player.lyricsToggled slug isOpen) := by
  unfold lyricsToggled Player.lyricsToggled
  cases found : player.indexOf slug with
  | error error => rfl
  | ok index =>
    dsimp only
    rw [setOpen_eq secure.fits (secure.index_lt_of_indexOf found)]
    rfl

end Page

/-! ### The volume -/

section Sound

variable {α T G S F : Type} [Scalar α] [GainStage α G] [PreferenceStore S]

/-- Keeps and shows the volume after it changed. -/
def volumeChanged (player : Player α T G S F) : Option (Player α T G S F) := do
  let filled ← fill player.volume
  let (store, log) := Preferences.storeVolume player.store player.volume.volume
  some (({ player with store }.tell log).queue
    [.setVolume player.volume.level player.volume.title filled])

/-- Sets the volume to where the pointer is on the volume bar. -/
def dragVolume (player : Player α T G S F) (bar : Bar α) (x y : α) :
    Option (Player α T G S F) := do
  let fraction ← along bar player.volumeBar x y
  let volume ← act player.volume (.fraction fraction)
  volumeChanged { player with volume }

/-- Goes to silence and back. -/
def toggleMute (player : Player α T G S F) : Option (Player α T G S F) := do
  let volume ← act player.volume .mute
  volumeChanged { player with volume }

/-- Switches evening out on or off. -/
def toggleReplaygain (player : Player α T G S F) : Option (Player α T G S F) := do
  let volume ← act player.volume .replaygain
  let (store, log) := Preferences.storeReplaygain player.store volume.replaygain
  let told := { player with volume, store }.tell
    (log ++ [Log.debug ("Replaygain " ++ Preferences.switchText volume.replaygain)])
  volumeChanged (told.queue [.setReplaygain volume.replaygain])

/-- Sets up a player at the volume that the listener left. -/
def new [Transport α T] (config : Config α) (transport : T) (output : G) (store : S) (frames : F) :
    Option (Except (SetupError α) (Player α T G S F)) := do
  let volume ← setVolume (VolumeControl.start output
    (Player.albumCompensation config.loudness).1
    (Preferences.load store : Preferences α × _).1.replaygain).1 (Preferences.load store).1.volume
  some ((Player.new config transport output store frames).map fun player => { player with volume })

end Sound

section Doubles

variable {T G S F : Type} [GainStage Float G] [PreferenceStore S] (player : Player Float T G S F)

theorem volumeChanged_eq : volumeChanged player = some player.volumeChanged := by
  unfold volumeChanged
  rw [fill_eq]
  rfl

theorem dragVolume_eq (bar : Bar Float) (x y : Float) :
    dragVolume player bar x y = some (player.dragVolume bar x y) := by
  unfold dragVolume
  rw [along_eq, Option.bind_eq_bind, Option.bind_some, act_eq]
  exact volumeChanged_eq _

theorem toggleMute_eq : toggleMute player = some player.toggleMute := by
  unfold toggleMute
  rw [act_eq]
  exact volumeChanged_eq _

theorem toggleReplaygain_eq : toggleReplaygain player = some player.toggleReplaygain := by
  unfold toggleReplaygain
  rw [act_eq]
  exact volumeChanged_eq _

/-- The volume that was stored is kept within bounds that bound an interval, whatever was stored. -/
theorem new_eq [Transport Float T] (config : Config Float) (transport : T) (output : G) (store : S)
    (frames : F) : new config transport output store frames =
      some (Player.new config transport output store frames) := by
  unfold new
  rw [setVolume_eq]
  cases made : Player.new config transport output store frames with
  | error error => rfl
  | ok player =>
    rw [← (Player.isNew_of_new made).volume]
    rfl

end Doubles

/-! ### Commands -/

section Commands

variable {α T G S F : Type} [Scalar α] [Transport α T] [GainStage α G] [PreferenceStore S]

/-- Shows everything for the first time. -/
def renderInitial (player : Player α T G S F) : Option (Player α T G S F) := do
  let track ← currentTrack player
  let skips ← skipEffect player
  let shown ← volumeChanged <| player.queue <|
    player.hidingEffects ++
      [.setTitle track.title, .setReplaygain player.volume.replaygain, skips] ++
      Player.durationEffects player.table
  updateTime shown

/-- The pointer is pressed on the seek bar. -/
def seekPointerDown (player : Player α T G S F) (bar : Bar α) (x : α) :
    Option (Player α T G S F) :=
  dragSeek { player.pauseStream with drag := some (.seek bar) } bar x

/-- The pointer is pressed on the volume bar. -/
def volumePointerDown (player : Player α T G S F) (bar : Bar α) (x y : α) :
    Option (Player α T G S F) :=
  dragVolume ({ player with drag := some (.volume bar) }.queue [.setVolumeDropOpen true]) bar x y

/-- The pointer is moved. -/
def pointerMove (player : Player α T G S F) (x y : α) : Option (Player α T G S F) :=
  match player.drag with
  | some (.seek bar) => dragSeek player bar x
  | some (.volume bar) => dragVolume player bar x y
  | none => some player

/-- The player after a command. Starting and pausing need no guards, nor does releasing the pointer. -/
def perform (player : Player α T G S F) : Command α → Option (Player α T G S F)
  | .attach format endpoint => (attachSource player format endpoint).map player.orUnchanged
  | .render => renderInitial player
  | .registerLyrics slug isOpen => (registerLyrics player slug isOpen).map player.orUnchanged
  | .toggleLyrics slug isOpen => (lyricsToggled player slug isOpen).map player.orUnchanged
  | .seekDown bar x => seekPointerDown player bar x
  | .volumeDown bar x y => volumePointerDown player bar x y
  | .move x y => pointerMove player x y
  | .up => some player.pointerUp
  | .togglePlay => some player.togglePlay
  | .skipPrevious => skipPrevious player
  | .skipNext => skipNext player
  | .trackButton slug => (trackButton player slug).map player.orUnchanged
  | .toggleMute => toggleMute player
  | .toggleReplaygain => toggleReplaygain player

end Commands

section Commands

variable {G S F : Type} [GainStage Float G] [PreferenceStore S]
  {player : Player Float (Deck Float) G S F} (secure : player.Secure)
include secure

theorem renderInitial_eq : renderInitial player = some player.renderInitial := by
  have opened : (player.queue player.openingEffects).volumeChanged.Secure :=
    ⟨secure.inOrder, secure.fits⟩
  unfold renderInitial
  simp only [currentTrack_eq secure, skipEffect_eq, volumeChanged_eq, Option.bind_eq_bind,
    Option.bind_some]
  exact updateTime_eq opened

variable (movable : player.stream.Movable)
include movable

omit [GainStage Float G] [PreferenceStore S] in
theorem seekPointerDown_eq (bar : Bar Float) (x : Float) :
    seekPointerDown player bar x = some (player.seekPointerDown bar x) := by
  let pressed := { player.pauseStream with drag := some (.seek bar) }
  have pressedSecure : pressed.Secure := ⟨secure.inOrder, secure.fits⟩
  have pressedMovable : pressed.stream.Movable := ⟨movable.running, movable.bounded⟩
  exact dragSeek_eq pressedSecure pressedMovable bar x

theorem pointerMove_eq (x y : Float) : pointerMove player x y = some (player.pointerMove x y) := by
  unfold pointerMove Player.pointerMove
  rcases player.drag with _ | bar | bar
  · rfl
  · exact dragSeek_eq secure movable bar x
  · exact dragVolume_eq player bar x y

/-- No command makes a misstep, whichever numbers it brings. -/
theorem perform_eq (command : Command Float) :
    perform player command = some (player.perform command) := by
  cases command with
  | attach format endpoint => exact congrArg (Option.map _) (attachSource_eq player format endpoint)
  | render => exact renderInitial_eq secure
  | registerLyrics slug isOpen =>
    exact congrArg (Option.map _) (registerLyrics_eq secure slug isOpen)
  | toggleLyrics slug isOpen =>
    exact congrArg (Option.map _) (lyricsToggled_eq secure slug isOpen)
  | seekDown bar x => exact seekPointerDown_eq secure movable bar x
  | volumeDown bar x y => exact dragVolume_eq _ bar x y
  | move x y => exact pointerMove_eq secure movable x y
  | up => rfl
  | togglePlay => rfl
  | skipPrevious => exact skipPrevious_eq secure movable
  | skipNext => exact skipNext_eq secure movable
  | trackButton slug => exact congrArg (Option.map _) (trackButton_eq secure movable slug)
  | toggleMute => exact toggleMute_eq player
  | toggleReplaygain => exact toggleReplaygain_eq player

end Commands

/-! ### Notifications and frames -/

section Signals

variable {α T G S F : Type} [Scalar α] [Transport α T] [FrameSource F]

/-- Takes in what the transport tells. -/
def notify (player : Player α T G S F) (notification : Notification) :
    Option (Player α T G S F) :=
  match notification with
  | .timeUpdate => updateTime player
  | .progress => updateBuffered player
  | .play =>
    if player.isSeekDragging then some player
    else (swapControls player .play .pause).map Player.startTicker
  | .pause =>
    let stopped := { player with ticker := player.ticker.stop }
    if player.isSeekDragging then some stopped else swapControls stopped .pause .play
  | .canPlay => some (player.notify notification)
  | .error _ => some (player.notify notification)

/-- Takes in a display frame. -/
def onFrame (player : Player α T G S F) : Option (Player α T G S F) :=
  (updateTime player).map fun updated =>
    let (ticker, log) := updated.ticker.afterFrame (!updated.stream.isPaused)
    { updated with ticker }.tell log

variable [Scalar.Ordered α] {player : Player α T G S F} (secure : player.Secure)
include secure

/-- Nothing that the transport tells leads to a misstep. -/
theorem notify_eq (notification : Notification) :
    notify player notification = some (player.notify notification) := by
  cases notification with
  | timeUpdate => exact updateTime_eq secure
  | progress => exact updateBuffered_eq secure
  | canPlay => rfl
  | play =>
    unfold notify Player.notify
    dsimp only
    rw [swapControls_eq secure]
    split <;> rfl
  | pause =>
    have stopped : ({ player with ticker := player.ticker.stop } : Player α T G S F).Secure :=
      ⟨secure.inOrder, secure.fits⟩
    unfold notify Player.notify
    dsimp only
    rw [swapControls_eq stopped]
    split <;> rfl
  | error message => rfl

theorem onFrame_eq : onFrame player = some player.onFrame := by
  unfold onFrame
  rw [updateTime_eq secure]
  rfl

end Signals

end Guarded

end ReleasePlayer
