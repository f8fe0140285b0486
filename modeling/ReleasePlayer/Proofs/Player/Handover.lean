/-
This file proves that a listener finds a player as the last one was left. A player stores the volume
that the listener hears of, not the gain of its output, so neither the album that played when it was
stored nor the one that plays when it is loaded has a part in it. What is stored is in the listener's
range, because every volume of the player was, and so loading does not change it; what a player did
not store, such as the volume to go back to from silence, is not handed over. All of the library is
imported since no part of it has the lemma that the digits of a number are read as that number.
-/

import Mathlib
import ReleasePlayer.Proofs.Player.Saved
import ReleasePlayer.Proofs.Player.Setup

namespace ReleasePlayer

namespace Player

variable {K T G S F : Type} [Exact K] [GainStage K G] [PreferenceStore S]

/-! ### The books of a run -/

/-- The volume follows a ledger, on an output of a given headroom. -/
structure InBooks (headroom : Headroom) (volume : VolumeControl K G) : Prop where
  headroom : volume.headroom = headroom
  follows : ∃ ledger, volume.Follows ledger

omit [PreferenceStore S] in
/-- A volume that is in the books is in the listener's range. -/
theorem InBooks.within {headroom : Headroom} {volume : VolumeControl K G}
    (inBooks : InBooks headroom volume) :
    0 ≤ volume.volume ∧ volume.volume ≤ headroom.maxVolume := by
  obtain ⟨rfl, ledger, follows⟩ := inBooks
  rw [follows.volume_eq]
  exact ⟨follows.within.volume_nonneg, follows.within.volume_le⟩

variable [GainStage.Faithful G]

omit [PreferenceStore S] in
theorem InBooks.act {headroom : Headroom} {volume : VolumeControl K G}
    (inBooks : InBooks headroom volume) (action : VolumeAction K) :
    InBooks headroom (volume.act action) := by
  obtain ⟨same, ledger, follows⟩ := inBooks
  exact ⟨(volume.act_fixed action).1.trans same, _, follows.act action⟩

theorem InBooks.sounding {headroom : Headroom} {before after : Player K T G S F}
    (sounding : Sounding before after) (inBooks : InBooks headroom before.volume) :
    InBooks headroom after.volume := by
  cases sounding with
  | save => exact inBooks
  | act action keeps => exact inBooks.act action
  | switch => exact inBooks.act .replaygain

/-! ### New players -/

omit [GainStage.Faithful G] [GainStage K G] [PreferenceStore S] in
theorem albumCompensation_positive (loudness : Option K) :
    0 < (albumCompensation loudness).1.factor := by
  cases loudness with
  | none => exact Exact.one_literal.trans_gt one_pos
  | some loudness => exact Exact.tenTo_pos _

section New

variable {config : Config K} {transport : T} {output : G} {store : S} {frames : F}
  {player : Player K T G S F} (isNew : IsNew config transport output store frames player)
include isNew

/-- A new player follows the ledger that is given the volume it loads. -/
theorem IsNew.follows : player.volume.Follows
    (Ledger.act (GainStage.headroom output) ⟨0, 0, Preferences.loadReplaygain store⟩
      (.set (Preferences.load store).1.volume)) := by
  have ready := VolumeControl.ready_of_start output (albumCompensation_positive config.loudness)
    (Preferences.loadReplaygain store) 0
  rw [isNew.volume]
  exact ready.set _

theorem IsNew.inBooks : InBooks (GainStage.headroom output) player.volume := by
  refine ⟨?_, _, isNew.follows⟩
  rw [isNew.volume]
  rfl

omit [GainStage.Faithful G] in
theorem IsNew.switchSaved {accepts : S → Prop} (accepting : accepts store) :
    SwitchSaved accepts player.volume player.store := by
  rw [isNew.volume, isNew.store]
  exact ⟨accepting, rfl⟩

/-- A new player takes over the volume in range that its store says, and the switch. -/
theorem IsNew.takesOver {volume : K} (nonneg : 0 ≤ volume)
    (le : volume ≤ (GainStage.headroom output).maxVolume)
    (written : PreferenceStore.read store Preferences.volumeKey = some (Scalar.text volume))
    (legible : Scalar.read (Text.trim (Scalar.text volume)) = some volume) :
    player.volume.volume = volume ∧
      player.volume.replaygain = Preferences.loadReplaygain store := by
  have loaded : Preferences.loadVolume store = (volume, []) :=
    Preferences.loadVolume_of_read written legible rfl (Exact.zero_literal.trans_le nonneg)
  have restored : (Preferences.load store).1.volume = volume := congrArg Prod.fst loaded
  have follows := isNew.follows
  rw [restored, Ledger.act_set_of_within nonneg le] at follows
  exact ⟨follows.volume_eq, follows.replaygain⟩

end New

/-! ### Handing over -/

variable [Transport K T] [FrameSource F]

/-- A player in exact arithmetic that finds the store as another one left it, on an output of the same
headroom, has the volume and the switch that the other one had at the end, whatever its settings
are. -/
theorem next_player_takes_over {config other : Config K}
    {transport otherTransport : T} {output otherOutput : G} {store : S} {frames otherFrames : F}
    {player : Player K T G S F}
    (setUp : new config transport output store frames = .ok player)
    {accepts : S → Prop} (lasting : PreferenceStore.Lasting accepts) (accepting : accepts store)
    (inputs : List (Input K T))
    (legible : Scalar.read (Text.trim (Scalar.text
        (player.renderInitial.takeAll inputs).snapshot.volume)) =
      some (player.renderInitial.takeAll inputs).snapshot.volume)
    {table : TrackTable K} (valid : other.validate = .ok ())
    (accepted : TrackTable.ofEntries other.tracks = .ok table)
    (sameHeadroom : GainStage.headroom otherOutput = GainStage.headroom output) :
    let ended := player.renderInitial.takeAll inputs
    ∃ next : Player K T G S F,
      new other otherTransport otherOutput ended.store otherFrames = .ok next ∧
        next.snapshot.volume = ended.snapshot.volume ∧
        next.snapshot.replaygainEnabled = ended.snapshot.replaygainEnabled := by
  intro ended
  obtain ⟨next, made⟩ := exists_new valid accepted otherTransport otherOutput ended.store otherFrames
  have isNew := isNew_of_new setUp
  have ran : Reactions player.renderInitial ended := reactions_takeAll _ inputs
  have whole : Reactions player ended := (soundSteps_renderInitial player).reactions.trans ran
  have saved : VolumeSaved accepts ended.volume ended.store := by
    refine volumeSaved_reactions lasting ran (volumeSaved_renderInitial lasting player ?_)
    rw [isNew.store]
    exact accepting
  have switched : SwitchSaved accepts ended.volume ended.store :=
    switchSaved_reactions lasting whole (isNew.switchSaved accepting)
  have inBooks : InBooks (GainStage.headroom output) ended.volume :=
    whole.keepSound (fun volume _ => InBooks (GainStage.headroom output) volume) InBooks.sounding
      isNew.inBooks
  -- loading brings a volume into range, which leaves this one alone: it is there already
  obtain ⟨nonneg, le⟩ := inBooks.within
  rw [← sameHeadroom] at le
  obtain ⟨volume, switch⟩ := (isNew_of_new made).takesOver nonneg le saved.volume legible
  exact ⟨next, made, volume, switch.trans switched.switch⟩

end Player

/-! ### A loud album and one that was not measured -/

namespace OneTrack

open InMemory Player

/-- One track of three minutes, on an album of a given loudness. -/
def config (loudness : Option ℚ) : Config ℚ where
  root := "https://music.example/"
  tracks := [⟨"dawn", "Dawn", "", 0, 180⟩]
  formats := [⟨"opus", "audio/ogg"⟩]
  loudness := loudness
  releaseSlug := some "first-light"
  overrideSlug := none
  hideTitle := false
  trialClip := .silence
  volumeBar := .horizontal

/-- The player of the release, in memory, on an amplified output. -/
def setUp (loudness : Option ℚ) (store : Store) :
    Except (SetupError ℚ) (Player ℚ (Deck ℚ) (Gain ℚ) Store Frames) :=
  Player.new (config loudness) (Deck.withDuration (some 180)) (Gain.ofHeadroom .amplified) store
    (Frames.fresh false)

/-- Nothing in the store says a volume or switches anything off. -/
def store : Store := .ofEntries [("volume", "loud"), ("replaygain", "maybe")] false

/-- The listener switches evening out off, picks two thirds of the volume bar, and goes to silence
and back. -/
def inputs : List (Input ℚ (Deck ℚ)) :=
  [.command .toggleReplaygain, .command (.volumeDown ⟨0, 0, 90, 10⟩ 60 0), .command .up,
    .command .toggleMute, .command .toggleMute]

theorem next_player_starts_at_full_volume :
    ∃ player, setUp (some (-2)) store = .ok player ∧
      let ended := player.renderInitial.takeAll inputs
      ended.snapshot.volume = 1 ∧ ended.snapshot.replaygainEnabled = false ∧
        ∃ next, setUp none ended.store = .ok next ∧
          next.snapshot.volume = ended.snapshot.volume ∧
          next.snapshot.replaygainEnabled = ended.snapshot.replaygainEnabled := by
  obtain ⟨player, made, checked⟩ := exists_of_any (setUp (some (-2)) store)
    (fun player =>
      decide ((player.renderInitial.takeAll inputs).snapshot.volume = 1) &&
        !(player.renderInitial.takeAll inputs).snapshot.replaygainEnabled) (by decide +kernel)
  rw [Bool.and_eq_true, decide_eq_true_iff, Bool.not_eq_true'] at checked
  obtain ⟨volume, switch⟩ := checked
  have legible : Scalar.read (Text.trim (Scalar.text
      (player.renderInitial.takeAll inputs).snapshot.volume)) =
      some (player.renderInitial.takeAll inputs).snapshot.volume := by
    have one : Text.trim (Scalar.text (1 : ℚ)) = "1" := by decide +kernel
    have read : "1".toInt? = some 1 := Nat.toInt?_repr 1
    rw [volume, one]
    exact congrArg (Option.map Int.cast) read
  exact ⟨player, made, volume, switch,
    next_player_takes_over made Store.lasting rfl inputs legible rfl rfl rfl⟩

end OneTrack

end ReleasePlayer
