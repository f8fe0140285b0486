/-
This file proves that a player and its store agree. Only the sound has to do with the store: steps of
the stream and signals touch neither the volume nor the store, and every step of the sound ends in
storing the volume. So once the volume was stored, its text is in the store from then on, as long as
the store accepts what is written. The switch that evens albums out is stored just when it is
switched, and a new player starts with the switch that its store had.
-/

import ReleasePlayer.Proofs.Player.Run
import ReleasePlayer.Proofs.Preferences

namespace ReleasePlayer

namespace VolumeControl

/-- Only switching evening out changes whether albums are evened out. -/
theorem act_replaygain {α G : Type} [Scalar α] [GainStage α G] (control : VolumeControl α G)
    {action : VolumeAction α} (keeps : action.switches = false) :
    (control.act action).replaygain = control.replaygain := by
  cases action with
  | set volume => rfl
  | fraction fraction => rfl
  | mute =>
    show control.toggleMute.replaygain = control.replaygain
    unfold toggleMute
    split <;> rfl
  | replaygain => cases keeps

end VolumeControl

namespace Player

variable {α T G S F : Type} [Scalar α]

/-! ### Steps without sound -/

theorem followStream_sound [Transport α T] (player : Player α T G S F) :
    player.followStream.volume = player.volume ∧ player.followStream.store = player.store := by
  obtain ⟨effects, log, followed⟩ := player.followStream_eq
  rw [followed]
  exact ⟨rfl, rfl⟩

theorem Step.sound_eq [Transport α T] {before after : Player α T G S F}
    (step : Step before after) : after.volume = before.volume ∧ after.store = before.store := by
  cases step with
  | follow => exact followStream_sound before
  | _ => exact ⟨rfl, rfl⟩

omit [Scalar α] in
theorem Signal.sound_eq {before after : Player α T G S F} (signal : Signal before after) :
    after.volume = before.volume ∧ after.store = before.store := by
  cases signal with
  | button _ _ => exact ⟨rfl, rfl⟩
  | ticker _ => exact ⟨rfl, rfl⟩

variable [Transport α T] [GainStage α G] [PreferenceStore S] {before after : Player α T G S F}

/-- What every step of the sound keeps of the volume and the store is kept throughout. -/
theorem Reactions.keepSound (holds : VolumeControl α G → S → Prop)
    (reactions : Reactions before after)
    (sounding : ∀ {before after : Player α T G S F}, Sounding before after →
      holds before.volume before.store → holds after.volume after.store)
    (holding : holds before.volume before.store) : holds after.volume after.store := by
  have unchanged {before after : Player α T G S F}
      (same : after.volume = before.volume ∧ after.store = before.store)
      (holding : holds before.volume before.store) : holds after.volume after.store := by
    rw [same.1, same.2]
    exact holding
  exact reactions.keep (fun player => holds player.volume player.store)
    (fun step => unchanged step.sound_eq) sounding (fun signal => unchanged signal.sound_eq) holding

/-! ### What is in the store -/

/-- The store goes on to accept, and keeps the text of the volume. -/
structure VolumeSaved (accepts : S → Prop) (volume : VolumeControl α G) (store : S) : Prop where
  accepting : accepts store
  volume : PreferenceStore.read store Preferences.volumeKey = some (Scalar.text volume.volume)

/-- The store goes on to accept, and says whether albums are evened out. -/
structure SwitchSaved (accepts : S → Prop) (volume : VolumeControl α G) (store : S) : Prop where
  accepting : accepts store
  switch : Preferences.loadReplaygain store = volume.replaygain

variable {accepts : S → Prop} (lasting : PreferenceStore.Lasting accepts)
include lasting

omit [Transport α T] in
theorem volumeSaved_volumeChanged (player : Player α T G S F) (accepting : accepts player.store) :
    VolumeSaved accepts player.volumeChanged.volume player.volumeChanged.store where
  accepting := Preferences.accepts_storeVolume lasting accepting _
  volume := Preferences.read_storeVolume lasting accepting _

omit [Transport α T] in
theorem switchSaved_volumeChanged {player : Player α T G S F}
    (saved : SwitchSaved accepts player.volume player.store) :
    SwitchSaved accepts player.volumeChanged.volume player.volumeChanged.store where
  accepting := Preferences.accepts_storeVolume lasting saved.accepting _
  switch := (Preferences.loadReplaygain_storeVolume lasting saved.accepting _).trans saved.switch

omit [Transport α T] in
theorem volumeSaved_sounding (sounding : Sounding before after)
    (accepting : accepts before.store) : VolumeSaved accepts after.volume after.store := by
  cases sounding with
  | save => exact volumeSaved_volumeChanged lasting _ accepting
  | act action keeps => exact volumeSaved_volumeChanged lasting _ accepting
  | switch =>
    exact volumeSaved_volumeChanged lasting _
      (Preferences.accepts_storeReplaygain lasting accepting _)

omit [Transport α T] in
theorem switchSaved_sounding (sounding : Sounding before after)
    (saved : SwitchSaved accepts before.volume before.store) :
    SwitchSaved accepts after.volume after.store := by
  cases sounding with
  | save => exact switchSaved_volumeChanged lasting saved
  | act action keeps =>
    refine switchSaved_volumeChanged lasting ⟨saved.accepting, ?_⟩
    exact saved.switch.trans (before.volume.act_replaygain keeps).symm
  | switch =>
    -- the volume is stored after the switch, but under another key
    refine switchSaved_volumeChanged lasting ⟨?_, ?_⟩
    · exact Preferences.accepts_storeReplaygain lasting saved.accepting _
    · exact Preferences.loadReplaygain_storeReplaygain lasting saved.accepting _

/-! ### Runs -/

theorem volumeSaved_reactions (reactions : Reactions before after)
    (saved : VolumeSaved accepts before.volume before.store) :
    VolumeSaved accepts after.volume after.store :=
  reactions.keepSound (VolumeSaved accepts)
    (fun sounding saved => volumeSaved_sounding lasting sounding saved.accepting) saved

theorem switchSaved_reactions (reactions : Reactions before after)
    (saved : SwitchSaved accepts before.volume before.store) :
    SwitchSaved accepts after.volume after.store :=
  reactions.keepSound (SwitchSaved accepts) (switchSaved_sounding lasting) saved

/-- Showing everything stores the volume for the first time. -/
theorem volumeSaved_renderInitial (player : Player α T G S F)
    (accepting : accepts player.store) :
    VolumeSaved accepts player.renderInitial.volume player.renderInitial.store := by
  have shown := volumeSaved_volumeChanged lasting (player.queue player.openingEffects) accepting
  exact volumeSaved_reactions lasting (steps_updateTime _).reactions shown

end Player

end ReleasePlayer
