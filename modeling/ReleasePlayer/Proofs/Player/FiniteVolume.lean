/-
This file says for which albums the volume of a player stays a number. The factor of an album is a power
of ten, and in doubles it may turn out to be zero or infinite, or so great that the loudest volume times
it is infinite; then a player can be brought to a volume that is none. For all other albums the volume
stays finite through every run, and what is stored of it is read back as it was. A run stores a volume in
several places, but always the one that it has just then; so what is found in the store afterwards was
the volume at some earlier time.
-/

import ReleasePlayer.Proofs.Double.ReadBack
import ReleasePlayer.Proofs.Double.Text
import ReleasePlayer.Proofs.Player.AlbumIndependence
import ReleasePlayer.Proofs.Volume.Doubles

namespace ReleasePlayer

open VolumeControl (Bounded Covers Usable IsFactor)

/-! ### What is stored -/

namespace Sound

variable {α T G S : Type} [Scalar α] [GainStage α G] [PreferenceStore S]

/-- What one sound stored, if anything, is the volume of another, which came of it. -/
def Stores (before after : Sound α G S) : Prop :=
  PreferenceStore.read after.store Preferences.volumeKey =
      PreferenceStore.read before.store Preferences.volumeKey ∨
    PreferenceStore.read after.store Preferences.volumeKey = some (Scalar.text after.volume.volume)

variable [PreferenceStore.Honest S]

theorem stores_save {before sound : Sound α G S}
    (kept : PreferenceStore.read sound.store Preferences.volumeKey =
      PreferenceStore.read before.store Preferences.volumeKey) : Stores before sound.save := by
  rcases Preferences.read_write_cases sound.store Preferences.volumeKey
    (Scalar.text sound.volume.volume) "Failed to persist volume: " with same | written
  · refine Or.inl (Eq.trans ?_ kept)
    exact congrArg (PreferenceStore.read · Preferences.volumeKey) same
  · exact Or.inr ((written Preferences.volumeKey).trans (if_pos rfl))

theorem stores_switch (sound : Sound α G S) : Stores sound sound.switch := by
  refine stores_save ?_
  rcases Preferences.read_write_cases sound.store Preferences.replaygainKey
    (Preferences.switchText sound.volume.toggleReplaygain.replaygain)
    "Failed to persist replaygain setting: " with same | written
  · exact congrArg (PreferenceStore.read · Preferences.volumeKey) same
  · exact (written Preferences.volumeKey).trans (if_neg (by decide))

/-- An input leaves what is stored of the volume, or stores the volume that it leads to. -/
theorem stores_take (sound : Sound α G S) (input : Input α T) : Stores sound (sound.take input) := by
  cases input with
  | command command =>
    cases command with
    | render => exact stores_save rfl
    | volumeDown bar x y => exact stores_save rfl
    | move x y =>
      show Stores sound (sound.move x y)
      unfold move
      split
      · exact stores_save rfl
      · exact Or.inl rfl
    | toggleMute => exact stores_save rfl
    | toggleReplaygain => exact stores_switch sound
    | _ => exact Or.inl rfl
  | _ => exact Or.inl rfl

/-- After a run the store says what it said at first, or a volume that there was on the way. -/
theorem exists_stored (sound : Sound α G S) (inputs : List (Input α T)) :
    PreferenceStore.read (sound.takeAll inputs).store Preferences.volumeKey =
        PreferenceStore.read sound.store Preferences.volumeKey ∨
      ∃ earlier, earlier <+: inputs ∧
        PreferenceStore.read (sound.takeAll inputs).store Preferences.volumeKey =
          some (Scalar.text (sound.takeAll earlier).volume.volume) := by
  induction inputs generalizing sound with
  | nil => exact Or.inl rfl
  | cons input later inductionHypothesis =>
    rcases inductionHypothesis (sound.take input) with kept | ⟨earlier, before, found⟩
    · rcases sound.stores_take input with same | stored
      · exact Or.inl (kept.trans same)
      · exact Or.inr ⟨[input], List.cons_prefix_cons.mpr ⟨rfl, List.nil_prefix⟩, kept.trans stored⟩
    · exact Or.inr ⟨input :: earlier, List.cons_prefix_cons.mpr ⟨rfl, before⟩, found⟩

end Sound

/-! ### Volumes of doubles -/

namespace Sound

variable {T G S : Type} [GainStage Float G] [GainStage.Faithful G] [PreferenceStore S]
  {headroom : Headroom} {factor level : Float} {sound : Sound Float G S}

theorem bounded_take (covers : Covers headroom factor level)
    (bounded : Bounded headroom factor level sound.volume) (input : Input Float T) :
    Bounded headroom factor level (sound.take input).volume := by
  have picked (bar : Bar Float) (x y : Float) :
      Bounded headroom factor level (sound.pick bar x y).volume := by
    show Bounded headroom factor level (sound.volume.act (.fraction _))
    exact bounded.act covers nofun
  cases input with
  | command command =>
    cases command with
    | volumeDown bar x y => exact picked bar x y
    | move x y =>
      show Bounded headroom factor level (sound.move x y).volume
      unfold move
      split
      · exact picked _ x y
      · exact bounded
    | toggleMute => exact bounded.toggleMute covers
    | toggleReplaygain => exact bounded.toggleReplaygain covers
    | _ => exact bounded
  | _ => exact bounded

/-- A run keeps the volume below the level. -/
theorem bounded_takeAll (covers : Covers headroom factor level)
    (bounded : Bounded headroom factor level sound.volume) (inputs : List (Input Float T)) :
    Bounded headroom factor level (sound.takeAll inputs).volume := by
  induction inputs generalizing sound with
  | nil => exact bounded
  | cons input later inductionHypothesis => exact inductionHypothesis (bounded_take covers bounded input)

end Sound

namespace Player

variable {T G S F : Type} [GainStage Float G] [PreferenceStore S]

/-! ### New players -/

omit [GainStage Float G] in
/-- A volume that is loaded is neither negative nor undefined, whatever the store says. -/
theorem loadVolume_nonneg (store : S) :
    (0.0 : Float) ≤ (Preferences.loadVolume store : Float × List Log.Entry).1 := by
  have volumes (text : String) : ∀ volume ∈ (Preferences.volumeOf? text : Option Float),
      0.0 ≤ volume := by
    intro volume said
    unfold Preferences.volumeOf? at said
    split at said
    · split at said
      · obtain rfl := Option.some.inj said
        unfold Scalar.atLeastZero
        split
        · assumption
        · exact Scalar.Ordered.refl_left Scalar.Ordered.zero_le_one
      · cases said
    · cases said
  unfold Preferences.loadVolume
  split
  · exact Scalar.Ordered.zero_le_one
  · split
    · rename_i said
      exact volumes _ _ said
    · exact Scalar.Ordered.zero_le_one

/-- The factor by which the volume of an album is multiplied on an output. -/
def factorOn (headroom : Headroom) (loudness : Option Float) : Float :=
  ((albumCompensation loudness).1.limitedTo headroom).factor

theorem isFactor_factorOn {loudness : Option Float}
    (nonneg : 0.0 ≤ (albumCompensation loudness).1.factor) (headroom : Headroom) :
    IsFactor headroom (factorOn headroom loudness) := by
  unfold factorOn
  generalize (albumCompensation loudness).1 = compensation at *
  unfold Compensation.limitedTo
  split
  · exact ⟨Scalar.Ordered.zero_le_one, fun _ => Scalar.Ordered.refl_right Scalar.Ordered.zero_le_one⟩
  · rename_i within
    refine ⟨nonneg, ?_⟩
    rintro rfl
    exact Scalar.le_of_not_lt (Scalar.Ordered.refl_right Scalar.Ordered.zero_le_one)
      (Scalar.Ordered.refl_right nonneg) fun more => within (decide_eq_true more)

section New

variable [GainStage.Faithful G] {config : Config Float} {transport : T} {output : G} {store : S}
  {frames : F} {player : Player Float T G S F} (isNew : IsNew config transport output store frames player)
include isNew

theorem IsNew.bounded {level : Float}
    (covers : Covers (GainStage.headroom output) (factorOn (GainStage.headroom output) config.loudness)
      level) :
    Bounded (GainStage.headroom output) (factorOn (GainStage.headroom output) config.loudness) level
      player.volume := by
  rw [isNew.volume]
  exact VolumeControl.bounded_setVolume covers rfl rfl
    (Scalar.Ordered.refl_right (loadVolume_nonneg store))
    (Scalar.Ordered.refl_left Scalar.Ordered.zero_le_one)

end New

/-! ### Runs -/

section Runs

variable [GainStage.Faithful G] [Transport Float T] [FrameSource F]

/-- A volume bar of a hundred pixels either way. -/
def squareBar : Bar Float := { left := 0.0, top := 0.0, width := 100.0, height := 100.0 }

theorem along_squareBar (axis : BarAxis) : squareBar.along axis 100.0 0.0 = 1.0 := by
  cases axis <;> decide +kernel

/-- The listener picks the full volume bar. -/
def pickAll : Input Float T := .command (.volumeDown squareBar 100.0 0.0)

/-- The listener has evening out on, and picks the full volume bar. -/
def fillUp (replaygain : Bool) : List (Input Float T) :=
  if replaygain then [pickAll] else [.command .toggleReplaygain, pickAll]

/-- A player whose factor cannot be used can be brought to a volume that is not finite. -/
theorem volume_lost {player : Player Float T G S F}
    (isFactor : IsFactor player.volume.headroom player.volume.compensation.factor)
    (unusable : ¬ Usable player.volume.headroom player.volume.compensation.factor) :
    ¬ (player.takeAll (fillUp player.volume.replaygain)).volume.volume.isFinite = true := by
  have filled (sound : Sound Float G S) :
      (sound.take (pickAll : Input Float T)).volume = sound.volume.setFraction 1.0 :=
    congrArg sound.volume.setFraction (along_squareBar sound.volumeBar)
  show ¬ (player.takeAll (fillUp player.volume.replaygain)).sound.volume.volume.isFinite = true
  rw [sound_takeAll]
  unfold fillUp
  cases isOn : player.volume.replaygain with
  | true =>
    show ¬ (player.sound.take (pickAll : Input Float T)).volume.volume.isFinite = true
    rw [filled]
    exact VolumeControl.volume_not_isFinite isFactor unusable isOn
  | false =>
    show ¬ (player.sound.switch.take (pickAll : Input Float T)).volume.volume.isFinite = true
    rw [filled]
    exact VolumeControl.volume_not_isFinite isFactor unusable (congrArg Bool.not isOn)

variable [PreferenceStore.Honest S]

/-- A player keeps a finite volume through every run, and stores only volumes that are read back as they
were, if and only if its factor is positive and leaves the loudest volume finite. That the power of ten
that makes the factor is neither negative nor undefined is left to whatever computes it. -/
theorem volume_survives_iff {config : Config Float} {transport : T} {output : G} {store : S}
    {frames : F} {player : Player Float T G S F}
    (setUp : Player.new config transport output store frames = .ok player)
    (nonneg : 0.0 ≤ (albumCompensation config.loudness).1.factor) :
    let headroom : Headroom := GainStage.headroom output
    let factor : Float := factorOn headroom config.loudness
    (∀ inputs : List (Input Float T),
      let reached := player.takeAll inputs
      reached.snapshot.volume.isFinite = true ∧
        (PreferenceStore.read reached.store Preferences.volumeKey =
            PreferenceStore.read store Preferences.volumeKey ∨
          ∃ earlier, earlier <+: inputs ∧
            PreferenceStore.read reached.store Preferences.volumeKey =
              some (Double.text (player.takeAll earlier).snapshot.volume) ∧
            Preferences.loadVolume reached.store = ((player.takeAll earlier).snapshot.volume, []))) ↔
      0.0 < factor ∧ (headroom.maxVolume * factor).isFinite = true := by
  intro headroom factor
  have isNew := isNew_of_new setUp
  constructor
  · intro survives
    by_contra unusable
    have isFactor := isFactor_factorOn nonneg headroom
    have same : player.volume.headroom = headroom ∧ player.volume.compensation.factor = factor := by
      rw [isNew.volume]
      exact ⟨rfl, rfl⟩
    refine volume_lost ?_ ?_ (survives (fillUp player.volume.replaygain)).1
    · rw [same.1, same.2]
      exact isFactor
    · rw [same.1, same.2]
      exact unusable
  · intro usable inputs
    obtain ⟨level, covers⟩ := VolumeControl.exists_covers usable
    have bounded (earlier : List (Input Float T)) :
        Bounded headroom factor level (player.takeAll earlier).volume := by
      show Bounded headroom factor level (player.takeAll earlier).sound.volume
      rw [sound_takeAll]
      exact Sound.bounded_takeAll covers (isNew.bounded covers) earlier
    refine ⟨(bounded inputs).volume_isFinite covers, ?_⟩
    have stored := player.sound.exists_stored inputs
    rw [← sound_takeAll] at stored
    rcases stored with kept | ⟨earlier, before, found⟩
    · exact Or.inl (kept.trans (congrArg (PreferenceStore.read · _) isNew.store))
    · rw [← sound_takeAll] at found
      refine Or.inr ⟨earlier, before, found, ?_⟩
      have finite := (bounded earlier).volume_isFinite covers
      have legible := Double.read_text finite
      refine Preferences.loadVolume_of_read found ?_ finite ((bounded earlier).volume covers).1
      show Double.read (Text.trim (Double.text _)) = some _
      rw [Text.trim_of_isVisible (Double.isVisible_text _)]
      exact legible

end Runs

end Player

namespace TwoTracks

open InMemory Player

/-- The album of two tracks was not measured, so its factor is one. -/
theorem volume_survives_everything :
    ∃ player, setUp = .ok player ∧ 0.0 ≤ (albumCompensation config.loudness).1.factor ∧
      ∀ inputs : List (Input Float (Deck Float)),
        (player.takeAll inputs).snapshot.volume.isFinite = true := by
  obtain ⟨player, made, -⟩ := exists_player (fun _ => true) (by decide +kernel)
  have nonneg : 0.0 ≤ (albumCompensation config.loudness).1.factor := by decide +kernel
  have survives := (volume_survives_iff made nonneg).mpr (by decide +kernel)
  exact ⟨player, made, nonneg, fun inputs => (survives inputs).1⟩

/-- The two tracks, on an album measured at five thousand decibels. -/
def loud : Config Float := { config with loudness := some 5000.0 }

/-- The factor of the loud album is zero, so its player has no volume from the start, stores that, and
the next player finds nothing it can use. -/
theorem volume_lost_at_once :
    ∃ player : Player Float (Deck Float) (Gain Float) Store Frames,
      Player.new loud (Deck.withDuration (some 360.0)) (Gain.ofHeadroom .amplified)
        (Store.ofEntries [] false) (Frames.fresh false) = .ok player ∧
      player.snapshot.volume.isFinite = false ∧
        let reached := player.takeAll [.command .render]
        PreferenceStore.read reached.store Preferences.volumeKey = some "NaN" ∧
          Preferences.loadVolume reached.store =
            ((1.0 : Float), [Log.warn ("Ignoring stored volume " ++ Text.quoted "NaN")]) := by
  obtain ⟨player, made, checked⟩ := exists_of_any
    (Player.new loud (Deck.withDuration (some 360.0)) (Gain.ofHeadroom .amplified)
      (Store.ofEntries [] false) (Frames.fresh false) :
      Except (SetupError Float) (Player Float (Deck Float) (Gain Float) Store Frames))
    (fun player => player.snapshot.volume.isFinite == false &&
      decide (PreferenceStore.read (player.takeAll [.command .render]).store Preferences.volumeKey =
        some "NaN"))
    (by decide +kernel)
  rw [Bool.and_eq_true, beq_iff_eq, decide_eq_true_iff] at checked
  obtain ⟨lost, stored⟩ := checked
  have useless : (Preferences.volumeOf? "NaN" : Option Float) = none := by decide +kernel
  refine ⟨player, made, lost, stored, ?_⟩
  unfold Preferences.loadVolume
  rw [stored]
  dsimp only
  rw [useless]
  rfl

end TwoTracks

end ReleasePlayer
