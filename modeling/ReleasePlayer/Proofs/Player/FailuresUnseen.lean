/-
This file proves that a player does the same with every store and with every source of frames. Two
players are twins if they differ in nothing but their stores, their tickers and what they told of
their work. No handler asks any of these for anything that it goes by, so twins that do the same stay
twins, and they answer alike; what becomes of what is written and asked for ends where it is told. Both
stores and both sources may refuse whatever they like and change their minds at any time: once the
stores said the same to the two players that were set up, neither player shows what they did after
that.
-/

import ReleasePlayer.Proofs.Player.Display

namespace ReleasePlayer

namespace Player

section Twins

variable {α T G S F S' F' : Type}

/-- A player with another store and another ticker, which told something else. -/
def refit (player : Player α T G S F) (store : S') (ticker : Ticker F') (log : List Log.Entry) :
    Player α T G S' F' :=
  { player with store, ticker, log }

/-- Two players that differ in their stores, their tickers and what they told, and in nothing else. -/
def Twin (player : Player α T G S F) (other : Player α T G S' F') : Prop :=
  ∃ store ticker log, other = player.refit store ticker log

/-- Outcomes of handlers that can fail: either both fail alike, or twins come of both. -/
inductive TwinOutcome :
    Except PlaybackError (Player α T G S F) → Except PlaybackError (Player α T G S' F') → Prop
  | ok {player : Player α T G S F} {other : Player α T G S' F'} (twin : Twin player other) :
      TwinOutcome (.ok player) (.ok other)
  | error (error : PlaybackError) : TwinOutcome (.error error) (.error error)

theorem Twin.refl (player : Player α T G S F) : Twin player player :=
  ⟨player.store, player.ticker, player.log, rfl⟩

theorem Twin.symm {player : Player α T G S F} {other : Player α T G S' F'}
    (twin : Twin player other) : Twin other player := by
  obtain ⟨store, ticker, log, rfl⟩ := twin
  exact ⟨player.store, player.ticker, player.log, rfl⟩

theorem Twin.trans {S'' F'' : Type} {player : Player α T G S F} {other : Player α T G S' F'}
    {third : Player α T G S'' F''} (twin : Twin player other) (next : Twin other third) :
    Twin player third := by
  obtain ⟨store, ticker, log, rfl⟩ := twin
  obtain ⟨store, ticker, log, rfl⟩ := next
  exact ⟨store, ticker, log, rfl⟩

variable {player : Player α T G S F} {other : Player α T G S' F'} (twin : Twin player other)
include twin

/-! ### What twins have in common -/

theorem Twin.table : other.table = player.table := by
  obtain ⟨_, _, _, rfl⟩ := twin
  rfl

theorem Twin.stream : other.stream = player.stream := by
  obtain ⟨_, _, _, rfl⟩ := twin
  rfl

theorem Twin.volume : other.volume = player.volume := by
  obtain ⟨_, _, _, rfl⟩ := twin
  rfl

theorem Twin.follower : other.follower = player.follower := by
  obtain ⟨_, _, _, rfl⟩ := twin
  rfl

theorem Twin.drag : other.drag = player.drag := by
  obtain ⟨_, _, _, rfl⟩ := twin
  rfl

theorem Twin.effects : other.effects = player.effects := by
  obtain ⟨_, _, _, rfl⟩ := twin
  rfl

theorem Twin.currentTrack : other.currentTrack = player.currentTrack := by
  obtain ⟨_, _, _, rfl⟩ := twin
  rfl

theorem Twin.isSeekDragging : other.isSeekDragging = player.isSeekDragging := by
  obtain ⟨_, _, _, rfl⟩ := twin
  rfl

theorem Twin.indexOf (slug : String) : other.indexOf slug = player.indexOf slug := by
  obtain ⟨_, _, _, rfl⟩ := twin
  rfl

/-- What can be asked of twins is the same. -/
theorem Twin.snapshot [Scalar α] [Transport α T] [GainStage α G] :
    other.snapshot = player.snapshot := by
  obtain ⟨_, _, _, rfl⟩ := twin
  rfl

/-! ### Small steps -/

theorem Twin.queue (effects : List (Effect α)) :
    Twin (player.queue effects) (other.queue effects) := by
  obtain ⟨_, _, _, rfl⟩ := twin
  exact ⟨_, _, _, rfl⟩

/-- What either of them tells is their own business. -/
theorem Twin.tell (log otherLog : List Log.Entry) : Twin (player.tell log) (other.tell otherLog) := by
  obtain ⟨_, _, _, rfl⟩ := twin
  exact ⟨_, _, _, rfl⟩

theorem Twin.setStream (stream : Stream T) :
    Twin { player with stream } { other with stream } := by
  obtain ⟨_, _, _, rfl⟩ := twin
  exact ⟨_, _, _, rfl⟩

theorem Twin.setDrag (drag : Option (Drag α)) :
    Twin { player with drag } { other with drag } := by
  obtain ⟨_, _, _, rfl⟩ := twin
  exact ⟨_, _, _, rfl⟩

theorem Twin.setFollower (follower : Follower) :
    Twin { player with follower } { other with follower } := by
  obtain ⟨_, _, _, rfl⟩ := twin
  exact ⟨_, _, _, rfl⟩

theorem Twin.setVolume (volume : VolumeControl α G) :
    Twin { player with volume } { other with volume } := by
  obtain ⟨_, _, _, rfl⟩ := twin
  exact ⟨_, _, _, rfl⟩

/-- Their stores are their own business. -/
theorem Twin.setStore (store : S) (otherStore : S') :
    Twin { player with store } { other with store := otherStore } := by
  obtain ⟨_, _, _, rfl⟩ := twin
  exact ⟨_, _, _, rfl⟩

/-- So are their tickers. -/
theorem Twin.setTicker (ticker : Ticker F) (otherTicker : Ticker F') :
    Twin { player with ticker } { other with ticker := otherTicker } := by
  obtain ⟨_, _, _, rfl⟩ := twin
  exact ⟨_, _, _, rfl⟩

theorem Twin.swapControls (before after : ControlClass) :
    Twin (player.swapControls before after) (other.swapControls before after) := by
  unfold Player.swapControls
  rw [twin.currentTrack]
  exact twin.queue _

/-- A frame that is refused to one of them is only told of. -/
theorem Twin.startTicker [FrameSource F] [FrameSource F'] :
    Twin player.startTicker other.startTicker :=
  (twin.setTicker _ _).tell _ _

section Streaming

variable [Transport α T]

/-- Both streams start, or both are refused. -/
theorem Twin.startStream : Twin player.startStream other.startStream := by
  unfold Player.startStream
  rw [twin.stream]
  cases player.stream.play with
  | ok stream => exact twin.setStream stream
  | error error => exact twin.tell _ _

theorem Twin.pauseStream : Twin player.pauseStream other.pauseStream := by
  unfold Player.pauseStream
  rw [twin.stream]
  exact (twin.setStream _).tell _ _

theorem Twin.togglePlay : Twin player.togglePlay other.togglePlay := by
  unfold Player.togglePlay
  rw [twin.stream]
  split
  · exact twin.startStream
  · exact twin.pauseStream

/-- Which drag ends is the same for both, and so is whether the stream goes on. -/
theorem Twin.pointerUp : Twin player.pointerUp other.pointerUp := by
  have released := twin.setDrag none
  unfold Player.pointerUp
  rw [twin.isSeekDragging]
  refine Twin.queue ?_ _
  split
  · exact released.startStream
  · exact released

variable [Scalar α]

theorem Twin.seek (time : α) : Twin (player.seek time) (other.seek time) := by
  unfold Player.seek
  rw [twin.stream]
  exact (twin.setStream _).tell _ _

theorem Twin.updateBuffered : Twin player.updateBuffered other.updateBuffered := by
  unfold Player.updateBuffered
  rw [twin.stream, twin.currentTrack]
  split
  · exact twin.queue _
  · exact twin

/-- Both follow the same position with the same follower. -/
theorem Twin.followStream : Twin player.followStream other.followStream := by
  obtain ⟨store, ticker, log, rfl⟩ := twin
  unfold Player.followStream
  dsimp only [refit]
  obtain ⟨follower, _ | change⟩ := player.follower.observe player.table player.stream.position
  · exact ⟨_, _, _, rfl⟩
  · exact ⟨_, _, _, rfl⟩

/-- Both bring the page up to date alike. -/
theorem Twin.updateTime : Twin player.updateTime other.updateTime := by
  unfold Player.updateTime
  rw [twin.stream, twin.table]
  dsimp only
  split
  · exact (twin.followStream.queue _).updateBuffered
  · exact twin.followStream

theorem Twin.dragSeek (bar : Bar α) (x : α) : Twin (player.dragSeek bar x) (other.dragSeek bar x) := by
  unfold Player.dragSeek
  rw [twin.currentTrack]
  exact (twin.seek _).updateTime

/-- Both know the same tracks. -/
theorem Twin.goTo (index : Nat) : Twin (player.goTo index) (other.goTo index) := by
  unfold Player.goTo
  rw [twin.table]
  split
  · exact (twin.seek _).updateTime
  · exact twin

theorem Twin.skipPrevious : Twin player.skipPrevious other.skipPrevious := by
  unfold Player.skipPrevious
  rw [twin.follower]
  split
  · exact twin
  · exact twin.goTo _

theorem Twin.skipNext : Twin player.skipNext other.skipNext := by
  unfold Player.skipNext
  rw [twin.follower, twin.table]
  split
  · exact twin
  · exact twin.goTo _

/-- Whether a further frame is granted shows in the tickers only. -/
theorem Twin.onFrame [FrameSource F] [FrameSource F'] : Twin player.onFrame other.onFrame :=
  (twin.updateTime.setTicker _ _).tell _ _

/-- Both take in alike what the transport tells, and each starts or stops its own ticker. -/
theorem Twin.notify [FrameSource F] [FrameSource F'] (notification : Notification) :
    Twin (player.notify notification) (other.notify notification) := by
  cases notification with
  | timeUpdate => exact twin.updateTime
  | progress => exact twin.updateBuffered
  | canPlay => exact twin.queue _
  | play =>
    unfold Player.notify
    dsimp only
    rw [twin.isSeekDragging]
    split
    · exact twin
    · exact (twin.swapControls .play .pause).startTicker
  | pause =>
    have stopped := twin.setTicker player.ticker.stop other.ticker.stop
    unfold Player.notify
    dsimp only
    rw [twin.isSeekDragging]
    split
    · exact stopped
    · exact stopped.swapControls .pause .play
  | error message => exact twin.tell _ _

end Streaming

/-! ### Handlers of the volume -/

section Sounding

variable [Scalar α] [GainStage α G] [PreferenceStore S] [PreferenceStore S']

/-- The volume is shown alike, whatever becomes of storing it. -/
theorem Twin.volumeChanged : Twin player.volumeChanged other.volumeChanged := by
  have kept := (twin.setStore (Preferences.storeVolume player.store player.volume.volume).1
    (Preferences.storeVolume other.store other.volume.volume).1).tell
      (Preferences.storeVolume player.store player.volume.volume).2
      (Preferences.storeVolume other.store other.volume.volume).2
  have shown : other.volumeEffect = player.volumeEffect := by
    unfold volumeEffect
    rw [twin.volume]
  unfold Player.volumeChanged
  dsimp only
  rw [← shown]
  exact kept.queue _

theorem Twin.dragVolume (bar : Bar α) (x y : α) :
    Twin (player.dragVolume bar x y) (other.dragVolume bar x y) := by
  obtain ⟨_, _, _, rfl⟩ := twin
  exact ⟨_, _, _, rfl⟩

theorem Twin.toggleMute : Twin player.toggleMute other.toggleMute := by
  unfold Player.toggleMute
  rw [twin.volume]
  exact (twin.setVolume _).volumeChanged

/-- Both switch evening out, and each stores that as it can. -/
theorem Twin.toggleReplaygain : Twin player.toggleReplaygain other.toggleReplaygain := by
  obtain ⟨_, _, _, rfl⟩ := twin
  exact ⟨_, _, _, rfl⟩

theorem Twin.pointerMove [Transport α T] (x y : α) :
    Twin (player.pointerMove x y) (other.pointerMove x y) := by
  unfold Player.pointerMove
  rw [twin.drag]
  split
  · exact twin.dragSeek _ x
  · exact twin.dragVolume _ x y
  · exact twin

omit [GainStage α G] [PreferenceStore S] [PreferenceStore S'] in
theorem Twin.openingEffects : other.openingEffects = player.openingEffects := by
  obtain ⟨_, _, _, rfl⟩ := twin
  rfl

/-- Both show the same for the first time. -/
theorem Twin.renderInitial [Transport α T] : Twin player.renderInitial other.renderInitial := by
  have opened : Twin (player.queue player.openingEffects) (other.queue other.openingEffects) := by
    rw [twin.openingEffects]
    exact twin.queue _
  exact opened.volumeChanged.updateTime

end Sounding

/-! ### Handlers that can fail -/

theorem Twin.registerLyrics (slug : String) (isOpen : Bool) :
    TwinOutcome (player.registerLyrics slug isOpen) (other.registerLyrics slug isOpen) := by
  unfold Player.registerLyrics
  rw [twin.indexOf, twin.follower]
  cases player.indexOf slug with
  | ok index => exact .ok (twin.setFollower _)
  | error error => exact .error error

theorem Twin.lyricsToggled (slug : String) (isOpen : Bool) :
    TwinOutcome (player.lyricsToggled slug isOpen) (other.lyricsToggled slug isOpen) := by
  unfold Player.lyricsToggled
  rw [twin.indexOf, twin.follower]
  cases player.indexOf slug with
  | ok index => exact .ok (twin.setFollower _)
  | error error => exact .error error

/-- The address is made of what both know, so attaching fails for both or for none. -/
theorem Twin.attachSource [Transport α T] (format : Option StreamFormat) (endpoint : Endpoint) :
    TwinOutcome (player.attachSource format endpoint) (other.attachSource format endpoint) := by
  obtain ⟨store, ticker, log, rfl⟩ := twin
  unfold Player.attachSource
  cases format with
  | none => exact .ok ⟨_, _, _, rfl⟩
  | some format =>
    dsimp only [refit]
    cases endpoint.streamAddress player.releaseSlug player.overrideSlug player.table.first.slug
      format.name with
    | ok url => exact .ok ⟨_, _, _, rfl⟩
    | error error => exact .error error

theorem Twin.trackButton [Scalar α] [Transport α T] (slug : String) :
    TwinOutcome (player.trackButton slug) (other.trackButton slug) := by
  unfold Player.trackButton
  rw [twin.indexOf, twin.follower]
  cases player.indexOf slug with
  | error error => exact .error error
  | ok index =>
    dsimp only
    split
    · exact .ok twin.togglePlay
    · exact .ok (twin.goTo index).startStream

/-- A handler that fails leaves both of them as they were. -/
theorem Twin.orUnchanged {outcome : Except PlaybackError (Player α T G S F)}
    {otherOutcome : Except PlaybackError (Player α T G S' F')}
    (outcomes : TwinOutcome outcome otherOutcome) :
    Twin (player.orUnchanged outcome) (other.orUnchanged otherOutcome) := by
  cases outcomes with
  | ok after => exact after
  | error error => exact twin

end Twins

/-! ### What a handler answers -/

variable {α T G S F S' F' : Type} [Scalar α] [Transport α T]

/-- What the handler of a command answers: that it is done, or why it failed. -/
def answer (player : Player α T G S F) : Command α → Except PlaybackError Unit
  | .attach format endpoint => (player.attachSource format endpoint).map fun _ => ()
  | .registerLyrics slug isOpen => (player.registerLyrics slug isOpen).map fun _ => ()
  | .toggleLyrics slug isOpen => (player.lyricsToggled slug isOpen).map fun _ => ()
  | .trackButton slug => (player.trackButton slug).map fun _ => ()
  | _ => .ok ()

omit [Scalar α] [Transport α T] in
theorem TwinOutcome.answer {outcome : Except PlaybackError (Player α T G S F)}
    {otherOutcome : Except PlaybackError (Player α T G S' F')}
    (outcomes : TwinOutcome outcome otherOutcome) :
    (otherOutcome.map fun _ => ()) = outcome.map fun _ => () := by
  cases outcomes <;> rfl

/-- A command fails for both, with the same error, or for none. -/
theorem Twin.answer {player : Player α T G S F} {other : Player α T G S' F'}
    (twin : Twin player other) (command : Command α) :
    other.answer command = player.answer command := by
  cases command with
  | attach format endpoint => exact (twin.attachSource format endpoint).answer
  | registerLyrics slug isOpen => exact (twin.registerLyrics slug isOpen).answer
  | toggleLyrics slug isOpen => exact (twin.lyricsToggled slug isOpen).answer
  | trackButton slug => exact (twin.trackButton slug).answer
  | _ => rfl

/-! ### Runs -/

variable [GainStage α G] [PreferenceStore S] [PreferenceStore S']

/-- A command makes twins of twins. -/
theorem Twin.perform {player : Player α T G S F} {other : Player α T G S' F'}
    (twin : Twin player other) (command : Command α) :
    Twin (player.perform command) (other.perform command) := by
  cases command with
  | attach format endpoint => exact twin.orUnchanged (twin.attachSource format endpoint)
  | render => exact twin.renderInitial
  | registerLyrics slug isOpen => exact twin.orUnchanged (twin.registerLyrics slug isOpen)
  | toggleLyrics slug isOpen => exact twin.orUnchanged (twin.lyricsToggled slug isOpen)
  | seekDown bar x => exact (twin.pauseStream.setDrag _).dragSeek bar x
  | volumeDown bar x y => exact ((twin.setDrag _).queue _).dragVolume bar x y
  | move x y => exact twin.pointerMove x y
  | up => exact twin.pointerUp
  | togglePlay => exact twin.togglePlay
  | skipPrevious => exact twin.skipPrevious
  | skipNext => exact twin.skipNext
  | trackButton slug => exact twin.orUnchanged (twin.trackButton slug)
  | toggleMute => exact twin.toggleMute
  | toggleReplaygain => exact twin.toggleReplaygain

variable [FrameSource F] [FrameSource F']

/-- Whatever twins both take part in, they stay twins. -/
theorem Twin.exchange {player : Player α T G S F} {other : Player α T G S' F'}
    (twin : Twin player other) (exchange : Exchange α T) :
    Twin (player.exchange exchange) (other.exchange exchange) := by
  cases exchange with
  | input input =>
    cases input with
    | command command => exact twin.perform command
    | notify notification => exact twin.notify notification
    | frame => exact twin.onFrame
    | drift change =>
      show Twin { player with stream := change player.stream }
        { other with stream := change other.stream }
      rw [← twin.stream]
      exact twin.setStream _
  | handOver =>
    obtain ⟨_, _, _, rfl⟩ := twin
    exact ⟨_, _, _, rfl⟩

end Player

/-! ### Stores and frames that fail as they like -/

/-- What happens around a player: something that it takes part in, or a change of its store or of
its source of frames that it is not told of. -/
inductive Incident (α T S F : Type) where
  | exchange (exchange : Exchange α T)
  | store (change : S → S)
  | frames (change : F → F)

/-- What the player takes part in. -/
def Incident.exchange? {α T S F : Type} : Incident α T S F → Option (Exchange α T)
  | .exchange shared => some shared
  | .store _ => none
  | .frames _ => none

namespace Player

section Enduring

variable {α T G S F S' F' : Type} [Scalar α] [Transport α T] [GainStage α G] [PreferenceStore S]
  [FrameSource F] [PreferenceStore S'] [FrameSource F']

/-- The player after an incident. -/
def endure (player : Player α T G S F) : Incident α T S F → Player α T G S F
  | .exchange exchange => player.exchange exchange
  | .store change => { player with store := change player.store }
  | .frames change => { player with ticker.source := change player.ticker.source }

/-- The player after one incident after the other. -/
def endureAll (player : Player α T G S F) (incidents : List (Incident α T S F)) :
    Player α T G S F :=
  incidents.foldl endure player

/-- A player whose store and source of frames change on their own does as one does that only takes
part in the same. -/
theorem Twin.endureAll {player : Player α T G S F} {other : Player α T G S' F'}
    (twin : Twin player other) (incidents : List (Incident α T S' F')) :
    Twin (player.exchangeAll (incidents.filterMap Incident.exchange?))
      (other.endureAll incidents) := by
  induction incidents generalizing player other with
  | nil => exact twin
  | cons incident later inductionHypothesis =>
    cases incident with
    | exchange exchange => exact inductionHypothesis (twin.exchange exchange)
    | store change =>
      have changed : Twin player (other.endure (.store change)) := twin.setStore player.store _
      exact inductionHypothesis changed
    | frames change =>
      have changed : Twin player (other.endure (.frames change)) := twin.setTicker player.ticker _
      exact inductionHypothesis changed

/-- Two players are alike to whoever has to do with them. -/
structure Alike (player : Player α T G S F) (other : Player α T G S' F') : Prop where
  snapshot : other.snapshot = player.snapshot
  gain : other.volume.gain = player.volume.gain
  drag : other.drag = player.drag
  stream : other.stream = player.stream
  follower : other.follower = player.follower
  effects : other.effects = player.effects
  answer (command : Command α) : other.answer command = player.answer command

omit [PreferenceStore S] [FrameSource F] [PreferenceStore S'] [FrameSource F'] in
/-- What twins differ in is nothing that anyone else gets to see. -/
theorem Twin.alike {player : Player α T G S F} {other : Player α T G S' F'}
    (twin : Twin player other) : Alike player other where
  snapshot := twin.snapshot
  gain := by rw [twin.volume]
  drag := twin.drag
  stream := twin.stream
  follower := twin.follower
  effects := twin.effects
  answer := twin.answer

omit [FrameSource F] [FrameSource F'] [Transport α T] in
/-- What is set up with two stores that say the same are twins. -/
theorem exists_twin_of_new {config : Config α} {transport : T} {output : G} {store : S} {frames : F}
    {otherStore : S'} (otherFrames : F') {player : Player α T G S F}
    (setUp : new config transport output store frames = .ok player)
    (volume : PreferenceStore.read otherStore Preferences.volumeKey =
      PreferenceStore.read store Preferences.volumeKey)
    (replaygain : PreferenceStore.read otherStore Preferences.replaygainKey =
      PreferenceStore.read store Preferences.replaygainKey) :
    ∃ other, new config transport output otherStore otherFrames = .ok other ∧
      Twin player other := by
  have loaded : (Preferences.load otherStore : Preferences α × _) = Preferences.load store :=
    Preferences.load_congr volume replaygain
  unfold new at setUp ⊢
  rw [loaded]
  split at setUp
  · cases setUp
  · split at setUp
    · cases setUp
    · obtain rfl := Except.ok.inj setUp
      exact ⟨_, rfl, _, _, _, rfl⟩

/-- Two players are set up alike, with stores that say the same to them. From then on the same
happens to both, but what they write and the frames that they ask for may fail to the one and not to
the other, and their stores and their frames may change in between. The players stay alike. -/
theorem failures_stay_outside {config : Config α} {transport : T} {output : G} {store : S}
    {frames : F} {otherStore : S'} (otherFrames : F') {player : Player α T G S F}
    (setUp : new config transport output store frames = .ok player)
    (volume : PreferenceStore.read otherStore Preferences.volumeKey =
      PreferenceStore.read store Preferences.volumeKey)
    (replaygain : PreferenceStore.read otherStore Preferences.replaygainKey =
      PreferenceStore.read store Preferences.replaygainKey)
    (incidents : List (Incident α T S F)) (others : List (Incident α T S' F'))
    (same : others.filterMap Incident.exchange? = incidents.filterMap Incident.exchange?) :
    ∃ other, new config transport output otherStore otherFrames = .ok other ∧
      Alike (player.endureAll incidents) (other.endureAll others) := by
  obtain ⟨other, made, twin⟩ := exists_twin_of_new otherFrames setUp volume replaygain
  have left : Twin (player.exchangeAll (incidents.filterMap Incident.exchange?))
      (player.endureAll incidents) := (Twin.refl player).endureAll incidents
  have right : Twin (player.exchangeAll (incidents.filterMap Incident.exchange?))
      (other.endureAll others) := by
    rw [← same]
    exact twin.endureAll others
  exact ⟨other, made, (left.symm.trans right).alike⟩

end Enduring

/-- The listener plays the first track, switches evening out, and picks a volume; a frame comes, and
the page catches up in between. -/
def anEvening : List (Exchange Float (InMemory.Deck Float)) :=
  [.input (.command (.attach (some ⟨"opus", "audio/ogg"⟩) TwoTracks.endpoint)),
    .input (.command .togglePlay), .input (.notify .play), .input (.command .toggleReplaygain),
    .handOver, .input (.command (.volumeDown TwoTracks.bar 50.0 5.0)), .input .frame]

/-- A store that cannot be written, and frames that are refused at first. -/
def aPoorEvening : List (Incident Float (InMemory.Deck Float) InMemory.Store InMemory.Frames) :=
  anEvening.dropLast.map .exchange ++
    [.frames fun frames => { frames with isRefusing := false }, .exchange (.input .frame)]

/-- The one player keeps both preferences and is granted both of its frames, the other one keeps
nothing and is granted the last frame only. -/
theorem failures_stay_outside_two_tracks :
    ∃ player other, TwoTracks.setUp = .ok player ∧
      new TwoTracks.config (InMemory.Deck.withDuration (some 360.0))
        (InMemory.Gain.ofHeadroom .amplified) (InMemory.Store.ofEntries [] true)
        (InMemory.Frames.fresh true) = .ok other ∧
      Alike (player.endureAll (anEvening.map .exchange)) (other.endureAll aPoorEvening) ∧
      (player.endureAll (anEvening.map .exchange)).store.entries.length = 2 ∧
      (player.endureAll (anEvening.map .exchange)).ticker.source.granted = 2 ∧
      (other.endureAll aPoorEvening).store.entries.length = 0 ∧
      (other.endureAll aPoorEvening).ticker.source.granted = 1 := by
  obtain ⟨player, setUp, checked⟩ := TwoTracks.exists_player (fun player =>
    decide ((player.endureAll (anEvening.map .exchange)).store.entries.length = 2 ∧
      (player.endureAll (anEvening.map .exchange)).ticker.source.granted = 2)) (by decide +kernel)
  obtain ⟨kept, granted⟩ := of_decide_eq_true checked
  have nothing (key : String) : PreferenceStore.read (InMemory.Store.ofEntries [] true) key =
      PreferenceStore.read (InMemory.Store.ofEntries [] false) key := rfl
  obtain ⟨other, made, alike⟩ := failures_stay_outside (InMemory.Frames.fresh true) setUp
    (nothing _) (nothing _) (anEvening.map .exchange) aPoorEvening rfl
  obtain ⟨same, remade, otherChecked⟩ := exists_of_any (new TwoTracks.config
    (InMemory.Deck.withDuration (some 360.0)) (InMemory.Gain.ofHeadroom .amplified)
    (InMemory.Store.ofEntries [] true) (InMemory.Frames.fresh true)) (fun other =>
      decide ((other.endureAll aPoorEvening).store.entries.length = 0 ∧
        (other.endureAll aPoorEvening).ticker.source.granted = 1)) (by decide +kernel)
  obtain rfl := Except.ok.inj (remade.symm.trans made)
  obtain ⟨lost, grantedLate⟩ := of_decide_eq_true otherChecked
  exact ⟨player, same, setUp, made, alike, kept, granted, lost, grantedLate⟩

end Player

end ReleasePlayer
