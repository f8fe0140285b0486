/-
This file says what a new player is made of, so that nothing further up has to open how players are
set up. It also sets up one release of two tracks, on which statements about all players can be
tried.
-/

import ReleasePlayer.InMemory.Deck
import ReleasePlayer.InMemory.Frames
import ReleasePlayer.InMemory.Gain
import ReleasePlayer.InMemory.Store
import ReleasePlayer.Player
import ReleasePlayer.Scalar.Double

namespace ReleasePlayer

/-! ### New players -/

namespace Player

variable {α T G S F : Type} [Scalar α] [GainStage α G] [PreferenceStore S]

/-- What a player is made of when it is new. -/
structure IsNew (config : Config α) (transport : T) (output : G) (store : S) (frames : F)
    (player : Player α T G S F) : Prop where
  valid : config.validate = .ok ()
  table : TrackTable.ofEntries config.tracks = .ok player.table
  stream : player.stream = .ofTransport transport
  volume : player.volume = (VolumeControl.start output (albumCompensation config.loudness).1
    (Preferences.load store : Preferences α × _).1.replaygain).1.setVolume
      (Preferences.load store).1.volume
  store : player.store = store
  ticker : player.ticker = .ofSource frames
  follower : player.follower = .start player.table.size
  format : player.format = none
  drag : player.drag = none
  effects : player.effects = []

theorem isNew_of_new {config : Config α} {transport : T} {output : G} {store : S} {frames : F}
    {player : Player α T G S F} (setUp : new config transport output store frames = .ok player) :
    IsNew config transport output store frames player := by
  unfold new at setUp
  split at setUp
  · cases setUp
  · rename_i valid
    split at setUp
    · cases setUp
    · rename_i table accepted
      obtain rfl := Except.ok.inj setUp
      exact ⟨valid, accepted, rfl, rfl, rfl, rfl, rfl, rfl, rfl, rfl⟩

/-- A new player drags its volume along the direction that its settings say. -/
theorem volumeBar_of_new {config : Config α} {transport : T} {output : G} {store : S} {frames : F}
    {player : Player α T G S F} (setUp : new config transport output store frames = .ok player) :
    player.volumeBar = config.volumeBar := by
  unfold new at setUp
  split at setUp
  · cases setUp
  · split at setUp
    · cases setUp
    · obtain rfl := Except.ok.inj setUp
      rfl

/-- Settings that are valid, with tracks that make a table, make a player of whatever it is given. -/
theorem exists_new {config : Config α} {table : TrackTable α} (valid : config.validate = .ok ())
    (accepted : TrackTable.ofEntries config.tracks = .ok table) (transport : T) (output : G)
    (store : S) (frames : F) :
    ∃ player : Player α T G S F, new config transport output store frames = .ok player := by
  unfold new
  rw [valid]
  dsimp only
  rw [accepted]
  exact ⟨_, rfl⟩

omit [Scalar α] [GainStage α G] [PreferenceStore S] in
/-- What is checked of a player that was set up holds of it. -/
theorem exists_of_any (outcome : Except (SetupError α) (Player α T G S F))
    (check : Player α T G S F → Bool) (passed : outcome.toOption.any check = true) :
    ∃ player, outcome = .ok player ∧ check player = true := by
  cases outcome with
  | error _ => cases passed
  | ok player => exact ⟨player, rfl, passed⟩

end Player

/-! ### A release of two tracks -/

namespace TwoTracks

open InMemory

/-- Two tracks of three minutes, the second right after the first. -/
def config : Config Float where
  root := "https://music.example/"
  tracks := [⟨"dawn", "Dawn", "", 0.0, 180.0⟩, ⟨"dusk", "Dusk", "", 180.0, 360.0⟩]
  formats := [⟨"opus", "audio/ogg"⟩]
  loudness := none
  releaseSlug := some "first-light"
  overrideSlug := none
  hideTitle := false
  trialClip := .silence
  volumeBar := .vertical

/-- Where the release streams from. -/
def endpoint : Endpoint where
  base := {
    scheme := "https".toList
    authority := some { username := [], password := [], host := "music.example".toList, port := none }
    path := .segments [[]]
    query := none
    fragment := none }

/-- A seek bar of a hundred pixels. -/
def bar : Bar Float := { left := 0.0, top := 0.0, width := 100.0, height := 10.0 }

/-- The player of the release, in memory, on an amplified output. -/
def setUp : Except (SetupError Float) (Player Float (Deck Float) (Gain Float) Store Frames) :=
  Player.new config (Deck.withDuration (some 360.0)) (Gain.ofHeadroom .amplified)
    (Store.ofEntries [] false) (Frames.fresh false)

/-- The release can be set up, and what is checked of its player holds of it. -/
theorem exists_player (check : Player Float (Deck Float) (Gain Float) Store Frames → Bool)
    (passed : setUp.toOption.any check = true) :
    ∃ player, setUp = .ok player ∧ check player = true :=
  Player.exists_of_any setUp check passed

end TwoTracks

end ReleasePlayer
