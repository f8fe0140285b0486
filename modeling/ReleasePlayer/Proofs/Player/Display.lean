/-
This file proves that what a page shows follows from the state of the player alone. A page knows of
the player what it was told by effects, one after the other; what it shows of the title, the skip
buttons, the switch that evens albums out, and the volume is what it was told last of each. Each step
of a player queues what brings a page from what it should have shown before to what it should show
after. So a page that was once told everything is up to date as soon as it carries out what is queued,
however often it did so in between.
-/

import ReleasePlayer.Proofs.Follower.Lyrics
import ReleasePlayer.Proofs.Player.Saved
import ReleasePlayer.Proofs.Player.Setup

namespace ReleasePlayer

/-! ### What a page shows -/

/-- What a page was told last; nothing of what it was not told at all. -/
structure Display (α : Type) where
  title : Option String
  skip : Option SkipFlags
  replaygain : Option Bool
  volume : Option (VolumeLevel × String × α)

namespace Display

variable {α : Type}

/-- A page that was told nothing. -/
def blank : Display α := ⟨none, none, none, none⟩

def after (display : Display α) : Effect α → Display α
  | .setTitle title => { display with title := some title }
  | .setSkipState flags => { display with skip := some flags }
  | .setReplaygain enabled => { display with replaygain := some enabled }
  | .setVolume level title fill => { display with volume := some (level, title, fill) }
  | _ => display

def afterAll (display : Display α) (effects : List (Effect α)) : Display α :=
  effects.foldl after display

theorem afterAll_append (display : Display α) (first second : List (Effect α)) :
    display.afterAll (first ++ second) = (display.afterAll first).afterAll second :=
  List.foldl_append

theorem after_aside (display : Display α) {effect : Effect α} (aside : effect.isAside = true) :
    display.after effect = display := by
  cases effect with
  | setTitle _ => cases aside
  | setSkipState _ => cases aside
  | setReplaygain _ => cases aside
  | setVolume _ _ _ => cases aside
  | _ => rfl

theorem afterAll_aside (display : Display α) {effects : List (Effect α)}
    (aside : ∀ effect ∈ effects, effect.isAside = true) : display.afterAll effects = display := by
  induction effects with
  | nil => rfl
  | cons effect later inductionHypothesis =>
    show (display.after effect).afterAll later = display
    rw [after_aside display (aside effect List.mem_cons_self)]
    exact inductionHypothesis fun other member => aside other (List.mem_cons_of_mem _ member)

end Display

namespace Player

variable {α T G S F : Type} [Scalar α] [Transport α T] [GainStage α G]

/-- What a page should show of a player. -/
def display (player : Player α T G S F) : Display α where
  title := some player.currentTrack.title
  skip := some ⟨player.follower.current == 0,
    decide (player.table.lastIndex ≤ player.follower.current)⟩
  replaygain := some player.snapshot.replaygainEnabled
  volume := some (player.volume.level, player.volume.title, player.volume.fill)

/-! ### What is queued shows the player -/

theorem afterAll_openingEffects (display : Display α) (player : Player α T G S F) :
    display.afterAll player.openingEffects = { player.display with volume := display.volume } := by
  unfold openingEffects
  rw [Display.afterAll_append, Display.afterAll_aside _ (aside_durationEffects _),
    Display.afterAll_append, Display.afterAll_aside _ player.aside_hidingEffects]
  rfl

theorem afterAll_changeEffects (display : Display α) (player : Player α T G S F)
    (change : TrackChange) : display.afterAll (player.changeEffects change) =
      { display with title := player.display.title, skip := player.display.skip } := by
  unfold changeEffects
  rw [Display.afterAll_append, Display.afterAll_append, Display.afterAll_append,
    Display.afterAll_aside _ (aside_leftEffects _ _),
    Display.afterAll_aside _ (aside_lyricsEffects _ _ _),
    Display.afterAll_aside _ (aside_lyricsEffects _ _ _)]
  rfl

/-- What is queued takes a page from what it should show before to what it should show after. -/
def Renders (before after : Player α T G S F) : Prop :=
  ∃ effects, after.effects = before.effects ++ effects ∧
    before.display.afterAll effects = after.display

theorem Renders.trans {first second third : Player α T G S F} (earlier : Renders first second)
    (later : Renders second third) : Renders first third := by
  obtain ⟨effects, queued, shown⟩ := earlier
  obtain ⟨more, queuedLater, shownLater⟩ := later
  refine ⟨effects ++ more, ?_, ?_⟩
  · rw [queuedLater, queued, List.append_assoc]
  · rw [Display.afterAll_append, shown, shownLater]

theorem renders_of_same {before after : Player α T G S F} (effects : after.effects = before.effects)
    (display : after.display = before.display) : Renders before after :=
  ⟨[], effects.trans (List.append_nil _).symm, display.symm⟩

instance : Std.Refl (@Renders α T G S F _ _ _) := ⟨fun _ => renders_of_same rfl rfl⟩

instance : IsTrans (Player α T G S F) Renders := ⟨fun _ _ _ => Renders.trans⟩

theorem renders_followStream (player : Player α T G S F) : Renders player player.followStream := by
  unfold followStream
  dsimp only
  rcases player.follower.observe_eq player.table player.stream.position with same | ⟨_, -, moved⟩
  · rw [same]
    exact renders_of_same rfl rfl
  · rw [moved]
    refine ⟨_, rfl, ?_⟩
    rw [afterAll_changeEffects]
    rfl

theorem renders_step {before after : Player α T G S F} (step : Step before after) :
    Renders before after := by
  cases step with
  | tell log => exact renders_of_same rfl rfl
  | queue aside => exact ⟨_, rfl, before.display.afterAll_aside aside⟩
  | opening => exact ⟨_, rfl, before.afterAll_openingEffects before.display⟩
  | stream stream format => exact renders_of_same rfl rfl
  | drag drag => exact renders_of_same rfl rfl
  | register index isOpen => exact renders_of_same rfl rfl
  | setOpen index isOpen =>
    refine renders_of_same rfl ?_
    rcases before.follower.setOpen_eq index isOpen with noted | unchanged
    · rw [noted]
      rfl
    · rw [unchanged]
  | follow => exact renders_followStream before

variable [PreferenceStore S]

/-- However the volume changed, it is shown. -/
theorem renders_sounding {before after : Player α T G S F} (sounding : Sounding before after) :
    Renders before after := by
  cases sounding with
  | save => exact ⟨_, rfl, rfl⟩
  | act action keeps =>
    refine ⟨_, rfl, ?_⟩
    -- nothing is queued about the switch, so it had better be what it was
    unfold display snapshot
    rw [← before.volume.act_replaygain keeps]
    rfl
  | switch => exact ⟨[_, _], List.append_assoc _ _ _, rfl⟩

omit [PreferenceStore S] in
theorem renders_signal {before after : Player α T G S F} (signal : Signal before after) :
    Renders before after := by
  cases signal with
  | button classBefore classAfter => exact ⟨_, rfl, rfl⟩
  | ticker ticker => exact renders_of_same rfl rfl

theorem renders_reactions {before after : Player α T G S F} (reactions : Reactions before after) :
    Renders before after := by
  have each : @Step α T G S F _ _ ⊔ Sounding ⊔ Signal ≤ Renders :=
    sup_le (sup_le (fun _ _ step => renders_step step) fun _ _ sounding => renders_sounding sounding)
      fun _ _ signal => renders_signal signal
  exact Relation.reflTransGen_le_of_le each _ _ reactions

end Player

/-! ### A player with a page -/

/-- What happens to a player with a page. -/
inductive Exchange (α T : Type) where
  | input (input : Input α T)
  /-- The page carries out what is queued. -/
  | handOver

namespace Player

variable {α T G S F : Type} [Scalar α] [Transport α T] [GainStage α G] [PreferenceStore S]
  [FrameSource F]

/-- The player after an exchange. -/
def exchange (player : Player α T G S F) : Exchange α T → Player α T G S F
  | .input input => player.take input
  | .handOver => player.drainEffects.2

/-- The player after one exchange after the other. -/
def exchangeAll (player : Player α T G S F) (exchanges : List (Exchange α T)) : Player α T G S F :=
  exchanges.foldl exchange player

end Player

/-- A player, and what is shown on its page. -/
structure Screen (α T G S F : Type) where
  player : Player α T G S F
  display : Display α

namespace Screen

variable {α T G S F : Type} [Scalar α] [Transport α T] [GainStage α G] [PreferenceStore S]
  [FrameSource F]

def exchange (screen : Screen α T G S F) : Exchange α T → Screen α T G S F
  | .input input => { screen with player := screen.player.take input }
  | .handOver =>
    let (effects, player) := screen.player.drainEffects
    ⟨player, screen.display.afterAll effects⟩

def exchangeAll (screen : Screen α T G S F) (exchanges : List (Exchange α T)) :
    Screen α T G S F :=
  exchanges.foldl exchange screen

/-- The page shows what it should as soon as it carries out what is queued. -/
def UpToDate (screen : Screen α T G S F) : Prop :=
  screen.display.afterAll screen.player.effects = screen.player.display

omit [PreferenceStore S] [FrameSource F] in
theorem UpToDate.renders {player after : Player α T G S F} {display : Display α}
    (upToDate : UpToDate ⟨player, display⟩) (renders : player.Renders after) :
    UpToDate ⟨after, display⟩ := by
  obtain ⟨effects, queued, shown⟩ := renders
  have upToDate : display.afterAll player.effects = player.display := upToDate
  show display.afterAll after.effects = after.display
  rw [queued, Display.afterAll_append, upToDate, shown]

theorem UpToDate.exchange {screen : Screen α T G S F} (upToDate : UpToDate screen)
    (exchange : Exchange α T) : UpToDate (screen.exchange exchange) := by
  cases exchange with
  | input input =>
    exact upToDate.renders (Player.renders_reactions (screen.player.reactions_take input))
  | handOver => exact upToDate

theorem UpToDate.exchangeAll {screen : Screen α T G S F} (upToDate : UpToDate screen)
    (exchanges : List (Exchange α T)) : UpToDate (screen.exchangeAll exchanges) := by
  induction exchanges generalizing screen with
  | nil => exact upToDate
  | cons exchange later inductionHypothesis =>
    exact inductionHypothesis (upToDate.exchange exchange)

omit [FrameSource F] in
/-- A page is told everything when the player shows itself, whatever the page showed before. -/
theorem upToDate_renderInitial (player : Player α T G S F) (display : Display α) :
    UpToDate ⟨player.renderInitial, display⟩ := by
  have shown : UpToDate ⟨(player.queue player.openingEffects).volumeChanged, display⟩ := by
    show display.afterAll (player.effects ++ player.openingEffects ++ [player.volumeEffect]) = _
    rw [Display.afterAll_append, Display.afterAll_append, Player.afterAll_openingEffects]
    rfl
  exact shown.renders (Player.renders_reactions (Player.steps_updateTime _).reactions)

theorem volumeSaved_exchangeAll {accepts : S → Prop} (lasting : PreferenceStore.Lasting accepts)
    {screen : Screen α T G S F}
    (saved : Player.VolumeSaved accepts screen.player.volume screen.player.store)
    (exchanges : List (Exchange α T)) :
    Player.VolumeSaved accepts (screen.exchangeAll exchanges).player.volume
      (screen.exchangeAll exchanges).player.store := by
  induction exchanges generalizing screen with
  | nil => exact saved
  | cons exchange later inductionHypothesis =>
    have goesOn : Player.VolumeSaved accepts (screen.exchange exchange).player.volume
        (screen.exchange exchange).player.store := by
      cases exchange with
      | input input =>
        exact Player.volumeSaved_reactions lasting (screen.player.reactions_take input) saved
      | handOver => exact saved
    exact inductionHypothesis goesOn

/-- After a player showed itself for the first time, its page is up to date whenever it carries out
what is queued, and a store that accepts what is written keeps the text of the volume. -/
theorem page_shows_player (player : Player α T G S F) (display : Display α)
    (exchanges : List (Exchange α T)) :
    let screen := (Screen.mk player.renderInitial display).exchangeAll exchanges
    screen.display.afterAll screen.player.effects = screen.player.display ∧
      ∀ accepts : S → Prop, PreferenceStore.Lasting accepts → accepts player.store →
        PreferenceStore.read screen.player.store Preferences.volumeKey =
          some (Scalar.text screen.player.snapshot.volume) := by
  refine ⟨(upToDate_renderInitial player display).exchangeAll exchanges, ?_⟩
  intro accepts lasting accepting
  exact (volumeSaved_exchangeAll lasting (Player.volumeSaved_renderInitial lasting player accepting)
    exchanges).volume

/-- The listener skips to the second track, the page catches up, and the listener goes to
silence. -/
def silentSecondTrack : List (Exchange Float (InMemory.Deck Float)) :=
  [.input (.command (.attach (some ⟨"opus", "audio/ogg"⟩) TwoTracks.endpoint)),
    .input (.command .skipNext), .handOver, .input (.command .toggleMute)]

theorem page_shows_silent_second_track :
    ∃ player, TwoTracks.setUp = .ok player ∧ player.store.isReadOnly = false ∧
      let screen := (Screen.mk player.renderInitial .blank).exchangeAll silentSecondTrack
      screen.player.follower.current = 1 ∧
        screen.display.afterAll screen.player.effects = screen.player.display ∧
        PreferenceStore.read screen.player.store Preferences.volumeKey =
          some (Scalar.text screen.player.snapshot.volume) := by
  obtain ⟨player, made, checked⟩ := TwoTracks.exists_player (fun player =>
    !player.store.isReadOnly && decide (((Screen.mk player.renderInitial .blank).exchangeAll
      silentSecondTrack).player.follower.current = 1)) (by decide +kernel)
  rw [Bool.and_eq_true, Bool.not_eq_true', decide_eq_true_iff] at checked
  obtain ⟨writable, moved⟩ := checked
  obtain ⟨shown, saved⟩ := page_shows_player player .blank silentSecondTrack
  exact ⟨player, made, writable, moved, shown, saved _ InMemory.Store.lasting writable⟩

end Screen

end ReleasePlayer
