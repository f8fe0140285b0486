/-
This file says once what the handlers of a player are made of. However a handler comes to its end, it
has gone through small steps of few kinds: steps of the stream, which may tell, queue, move, follow
the stream into another track or take note of lyrics, but leave the volume alone and never ask for
another class of the player's own button; steps of the sound, after each of which the volume is
stored and shown; and signals, which start and stop the ticker or ask for the button, and which only
notifications and frames give. What every step keeps is kept by every handler, and what every handler
keeps is kept by every run.
-/

import Mathlib.Logic.Relation
import ReleasePlayer.Proofs.Player.Command
import ReleasePlayer.Proofs.Volume.Ledger

namespace ReleasePlayer

open Relation (ReflTransGen)

/-- Whether an effect shows something else than the track, the volume and whether albums are evened
out, and asks nothing of the player's own button. -/
def Effect.isAside {α : Type} : Effect α → Bool
  | .swapClass .global _ _ => false
  | .setTitle _ => false
  | .setSkipState _ => false
  | .setReplaygain _ => false
  | .setVolume _ _ _ => false
  | _ => true

namespace Player

section Kinds

variable {α T G S F : Type} [Scalar α]

/-- The effects that hide what a player does not need. -/
def hidingEffects (player : Player α T G S F) : List (Effect α) :=
  (if player.table.isSingle then [.hideSkipButtons] else []) ++
    if player.hideTitle then [.hideTitle] else []

/-- The effects that show how long the tracks are. -/
def durationEffects (table : TrackTable α) : List (Effect α) :=
  table.toList.map fun track => .setTrackDuration track.slug (timeLabel track.length none)

/-- The effects by which a player shows itself for the first time. -/
def openingEffects (player : Player α T G S F) : List (Effect α) :=
  player.hidingEffects ++
    [.setTitle player.currentTrack.title,
      .setReplaygain player.volume.replaygain,
      player.skipEffect] ++
    durationEffects player.table

omit [Scalar α] in
theorem aside_hidingEffects (player : Player α T G S F) :
    ∀ effect ∈ player.hidingEffects, effect.isAside = true := by
  unfold hidingEffects
  split <;> split <;> simp [Effect.isAside]

theorem aside_durationEffects (table : TrackTable α) :
    ∀ effect ∈ durationEffects table, effect.isAside = true := by
  intro effect member
  obtain ⟨track, -, rfl⟩ := List.mem_map.mp member
  rfl

omit [Scalar α] in
theorem aside_leftEffects (table : TrackTable α) (index : Nat) :
    ∀ effect ∈ leftEffects table index, effect.isAside = true := by
  unfold leftEffects
  split <;> simp [Effect.isAside]

omit [Scalar α] in
theorem aside_lyricsEffects (table : TrackTable α) (index : Option Nat) (isOpen : Bool) :
    ∀ effect ∈ lyricsEffects table index isOpen, effect.isAside = true := by
  unfold lyricsEffects
  split <;> simp [Effect.isAside]

inductive Step [Transport α T] : Player α T G S F → Player α T G S F → Prop where
  | tell (player : Player α T G S F) (log : List Log.Entry) : Step player (player.tell log)
  | queue (player : Player α T G S F) {effects : List (Effect α)}
      (aside : ∀ effect ∈ effects, effect.isAside = true) : Step player (player.queue effects)
  | opening (player : Player α T G S F) : Step player (player.queue player.openingEffects)
  | stream (player : Player α T G S F) (stream : Stream T) (format : Option StreamFormat) :
      Step player { player with stream, format }
  | drag (player : Player α T G S F) (drag : Option (Drag α)) : Step player { player with drag }
  | register (player : Player α T G S F) (index : Nat) (isOpen : Bool) :
      Step player { player with follower := player.follower.register index isOpen }
  | setOpen (player : Player α T G S F) (index : Nat) (isOpen : Bool) :
      Step player { player with follower := player.follower.setOpen index isOpen }
  | follow (player : Player α T G S F) : Step player player.followStream

inductive Sounding [GainStage α G] [PreferenceStore S] :
    Player α T G S F → Player α T G S F → Prop where
  | save (player : Player α T G S F) : Sounding player player.volumeChanged
  | act (player : Player α T G S F) (action : VolumeAction α) (keeps : action.switches = false) :
      Sounding player { player with volume := player.volume.act action }.volumeChanged
  | switch (player : Player α T G S F) : Sounding player player.toggleReplaygain

omit [Scalar α] in
inductive Signal : Player α T G S F → Player α T G S F → Prop where
  | button (player : Player α T G S F) (before after : ControlClass) :
      Signal player (player.queue [.swapClass .global before after])
  | ticker (player : Player α T G S F) (ticker : Ticker F) : Signal player { player with ticker }

end Kinds

/-! ### What the handlers go through -/

section Handlers

variable {α T G S F : Type} [Scalar α] [Transport α T]

/-- A handler that goes through steps of the stream only. -/
abbrev Steps : Player α T G S F → Player α T G S F → Prop := ReflTransGen Step

theorem steps_startStream (player : Player α T G S F) : Steps player player.startStream := by
  unfold startStream
  split
  · exact .single (.stream player _ player.format)
  · exact .single (.tell player _)

theorem steps_pauseStream (player : Player α T G S F) : Steps player player.pauseStream :=
  (ReflTransGen.single (.stream player _ player.format)).tail (.tell _ _)

theorem steps_seek (player : Player α T G S F) (time : α) : Steps player (player.seek time) :=
  (ReflTransGen.single (.stream player _ player.format)).tail (.tell _ _)

theorem steps_updateBuffered (player : Player α T G S F) : Steps player player.updateBuffered := by
  unfold updateBuffered
  split
  · exact .single (.queue player (by simp [Effect.isAside]))
  · exact .refl

theorem steps_updateTime (player : Player α T G S F) : Steps player player.updateTime := by
  unfold updateTime
  dsimp only
  split
  · refine .trans (.tail (.single (.follow player)) (.queue _ ?_)) (steps_updateBuffered _)
    simp [timeEffects, Effect.isAside]
  · exact .single (.follow player)

theorem steps_dragSeek (player : Player α T G S F) (bar : Bar α) (x : α) :
    Steps player (player.dragSeek bar x) :=
  (steps_seek player _).trans (steps_updateTime _)

theorem steps_seekPointerDown (player : Player α T G S F) (bar : Bar α) (x : α) :
    Steps player (player.seekPointerDown bar x) :=
  ((steps_pauseStream player).tail (.drag _ _)).trans (steps_dragSeek _ bar x)

theorem steps_pointerUp (player : Player α T G S F) : Steps player player.pointerUp := by
  unfold pointerUp
  refine .tail ?_ (.queue _ (by simp [Effect.isAside]))
  have released : Steps player { player with drag := none } := .single (.drag player none)
  split
  · exact released.trans (steps_startStream _)
  · exact released

theorem steps_togglePlay (player : Player α T G S F) : Steps player player.togglePlay := by
  unfold togglePlay
  split
  · exact steps_startStream player
  · exact steps_pauseStream player

theorem steps_goTo (player : Player α T G S F) (index : Nat) : Steps player (player.goTo index) := by
  unfold goTo
  split
  · exact (steps_seek player _).trans (steps_updateTime _)
  · exact .refl

theorem steps_skipPrevious (player : Player α T G S F) : Steps player player.skipPrevious := by
  unfold skipPrevious
  split
  · exact .refl
  · exact steps_goTo player _

theorem steps_skipNext (player : Player α T G S F) : Steps player player.skipNext := by
  unfold skipNext
  split
  · exact .refl
  · exact steps_goTo player _

theorem steps_trackButton (player : Player α T G S F) (slug : String) :
    Steps player (player.orUnchanged (player.trackButton slug)) := by
  refine orUnchanged_induction .refl fun after succeeded => ?_
  unfold trackButton at succeeded
  split at succeeded
  · cases succeeded
  · split at succeeded
    · obtain rfl := Except.ok.inj succeeded
      exact steps_togglePlay player
    · obtain rfl := Except.ok.inj succeeded
      exact (steps_goTo player _).trans (steps_startStream _)

theorem steps_attachSource (player : Player α T G S F) (format : Option StreamFormat)
    (endpoint : Endpoint) :
    Steps player (player.orUnchanged (player.attachSource format endpoint)) := by
  refine orUnchanged_induction .refl fun after succeeded => ?_
  unfold attachSource at succeeded
  cases format with
  | none =>
    obtain rfl := Except.ok.inj succeeded
    exact (ReflTransGen.single (.tell player _)).tail (.queue _ (by simp [Effect.isAside]))
  | some format =>
    dsimp only at succeeded
    split at succeeded
    · cases succeeded
    · obtain rfl := Except.ok.inj succeeded
      exact (ReflTransGen.single (.stream player _ (some format))).tail (.tell _ _)

theorem steps_registerLyrics (player : Player α T G S F) (slug : String) (isOpen : Bool) :
    Steps player (player.orUnchanged (player.registerLyrics slug isOpen)) := by
  refine orUnchanged_induction .refl fun after succeeded => ?_
  unfold registerLyrics at succeeded
  split at succeeded
  · obtain rfl := Except.ok.inj succeeded
    exact .single (.register player _ isOpen)
  · cases succeeded

theorem steps_lyricsToggled (player : Player α T G S F) (slug : String) (isOpen : Bool) :
    Steps player (player.orUnchanged (player.lyricsToggled slug isOpen)) := by
  refine orUnchanged_induction .refl fun after succeeded => ?_
  unfold lyricsToggled at succeeded
  split at succeeded
  · obtain rfl := Except.ok.inj succeeded
    exact .single (.setOpen player _ isOpen)
  · cases succeeded

end Handlers

section Commands

variable {α T G S F : Type} [Scalar α] [Transport α T] [GainStage α G] [PreferenceStore S]

/-- A handler that may also go through steps of the sound. -/
abbrev SoundSteps : Player α T G S F → Player α T G S F → Prop := ReflTransGen (Step ⊔ Sounding)

theorem Steps.sound {before after : Player α T G S F} (steps : Steps before after) :
    SoundSteps before after :=
  ReflTransGen.mono le_sup_left _ _ steps

theorem soundSteps_single {before after : Player α T G S F} (sounding : Sounding before after) :
    SoundSteps before after :=
  .single (Or.inr sounding)

theorem soundSteps_renderInitial (player : Player α T G S F) :
    SoundSteps player player.renderInitial := by
  have opened : Steps player (player.queue player.openingEffects) := .single (.opening player)
  exact (opened.sound.trans (soundSteps_single (.save _))).trans (steps_updateTime _).sound

theorem soundSteps_dragVolume (player : Player α T G S F) (bar : Bar α) (x y : α) :
    SoundSteps player (player.dragVolume bar x y) :=
  soundSteps_single (.act player (.fraction (bar.along player.volumeBar x y)) rfl)

theorem soundSteps_volumePointerDown (player : Player α T G S F) (bar : Bar α) (x y : α) :
    SoundSteps player (player.volumePointerDown bar x y) := by
  have pressed : Steps player
      ({ player with drag := some (.volume bar) }.queue [.setVolumeDropOpen true]) :=
    (ReflTransGen.single (.drag player _)).tail (.queue _ (by simp [Effect.isAside]))
  exact pressed.sound.trans (soundSteps_dragVolume _ bar x y)

theorem soundSteps_pointerMove (player : Player α T G S F) (x y : α) :
    SoundSteps player (player.pointerMove x y) := by
  unfold pointerMove
  split
  · exact (steps_dragSeek player _ x).sound
  · exact soundSteps_dragVolume player _ x y
  · exact .refl

/-- A command gives no signals. -/
theorem soundSteps_perform (player : Player α T G S F) (command : Command α) :
    SoundSteps player (player.perform command) := by
  cases command with
  | attach format endpoint => exact (steps_attachSource player format endpoint).sound
  | render => exact soundSteps_renderInitial player
  | registerLyrics slug isOpen => exact (steps_registerLyrics player slug isOpen).sound
  | toggleLyrics slug isOpen => exact (steps_lyricsToggled player slug isOpen).sound
  | seekDown bar x => exact (steps_seekPointerDown player bar x).sound
  | volumeDown bar x y => exact soundSteps_volumePointerDown player bar x y
  | move x y => exact soundSteps_pointerMove player x y
  | up => exact (steps_pointerUp player).sound
  | togglePlay => exact (steps_togglePlay player).sound
  | skipPrevious => exact (steps_skipPrevious player).sound
  | skipNext => exact (steps_skipNext player).sound
  | trackButton slug => exact (steps_trackButton player slug).sound
  | toggleMute => exact soundSteps_single (.act player .mute rfl)
  | toggleReplaygain => exact soundSteps_single (.switch player)

end Commands

/-! ### Quiet changes -/

section Quiet

variable {α T G S F : Type}

/-- A change of a player is quiet if it leaves the ticker alone and does not ask for another class
of the player's own button. -/
structure Quiet (before after : Player α T G S F) : Prop where
  ticker : after.ticker = before.ticker
  swaps : Effect.swapsOf .global after.effects = Effect.swapsOf .global before.effects

theorem Quiet.trans {first second third : Player α T G S F} (earlier : Quiet first second)
    (later : Quiet second third) : Quiet first third :=
  ⟨later.ticker.trans earlier.ticker, later.swaps.trans earlier.swaps⟩

instance : Std.Refl (@Quiet α T G S F) := ⟨fun _ => ⟨rfl, rfl⟩⟩

instance : IsTrans (Player α T G S F) Quiet := ⟨fun _ _ _ => Quiet.trans⟩

theorem quiet_queue (player : Player α T G S F) {effects : List (Effect α)}
    (noSwap : Effect.swapsOf .global effects = []) : Quiet player (player.queue effects) := by
  refine ⟨rfl, ?_⟩
  unfold queue
  rw [Effect.swapsOf_append, noSwap, List.append_nil]

theorem swapsOf_aside {effects : List (Effect α)}
    (aside : ∀ effect ∈ effects, effect.isAside = true) : Effect.swapsOf .global effects = [] := by
  refine List.filterMap_eq_nil_iff.mpr fun effect member => ?_
  have aside := aside effect member
  cases effect with
  | swapClass control before after =>
    cases control with
    | global => cases aside
    | track slug => rfl
  | _ => rfl

theorem swapsOf_changeEffects (player : Player α T G S F) (change : TrackChange) :
    Effect.swapsOf .global (player.changeEffects change) = [] := by
  unfold changeEffects
  rw [Effect.swapsOf_append, Effect.swapsOf_append, Effect.swapsOf_append,
    swapsOf_aside (aside_leftEffects _ _), swapsOf_aside (aside_lyricsEffects _ _ _),
    swapsOf_aside (aside_lyricsEffects _ _ _)]
  rfl

theorem swapsOf_openingEffects [Scalar α] (player : Player α T G S F) :
    Effect.swapsOf .global player.openingEffects = [] := by
  unfold openingEffects
  rw [Effect.swapsOf_append, Effect.swapsOf_append, swapsOf_aside player.aside_hidingEffects,
    swapsOf_aside (aside_durationEffects _)]
  rfl

theorem quiet_step [Scalar α] [Transport α T] {before after : Player α T G S F}
    (step : Step before after) : Quiet before after := by
  cases step with
  | tell log => exact ⟨rfl, rfl⟩
  | queue aside => exact quiet_queue before (swapsOf_aside aside)
  | opening => exact quiet_queue before (swapsOf_openingEffects before)
  | stream stream format => exact ⟨rfl, rfl⟩
  | drag drag => exact ⟨rfl, rfl⟩
  | register index isOpen => exact ⟨rfl, rfl⟩
  | setOpen index isOpen => exact ⟨rfl, rfl⟩
  | follow =>
    unfold followStream
    dsimp only
    split
    · refine Quiet.trans ?_ (quiet_queue _ (swapsOf_changeEffects _ _))
      exact ⟨rfl, rfl⟩
    · exact ⟨rfl, rfl⟩

theorem quiet_volumeChanged [Scalar α] [GainStage α G] [PreferenceStore S]
    (player : Player α T G S F) : Quiet player player.volumeChanged := by
  refine Quiet.trans ?_ (quiet_queue _ rfl)
  exact ⟨rfl, rfl⟩

theorem quiet_sounding [Scalar α] [GainStage α G] [PreferenceStore S]
    {before after : Player α T G S F} (sounding : Sounding before after) : Quiet before after := by
  cases sounding with
  | save => exact quiet_volumeChanged before
  | act action keeps =>
    refine Quiet.trans ?_ (quiet_volumeChanged _)
    exact ⟨rfl, rfl⟩
  | switch =>
    refine Quiet.trans (Quiet.trans ?_ (quiet_queue _ rfl)) (quiet_volumeChanged _)
    exact ⟨rfl, rfl⟩

theorem quiet_steps [Scalar α] [Transport α T] {before after : Player α T G S F}
    (steps : Steps before after) : Quiet before after := by
  have each : @Step α T G S F _ _ ≤ Quiet := fun _ _ step => quiet_step step
  exact Relation.reflTransGen_le_of_le each _ _ steps

/-- Commands are quiet. -/
theorem quiet_perform [Scalar α] [Transport α T] [GainStage α G] [PreferenceStore S]
    (player : Player α T G S F) (command : Command α) : Quiet player (player.perform command) := by
  have each : @Step α T G S F _ _ ⊔ Sounding ≤ Quiet :=
    sup_le (fun _ _ step => quiet_step step) fun _ _ sounding => quiet_sounding sounding
  exact Relation.reflTransGen_le_of_le each _ _ (soundSteps_perform player command)

end Quiet

end Player

end ReleasePlayer
