/-
This file follows the volume through the arithmetic of doubles, where multiplying by the factor of an
album and dividing by it again need not bring a volume back. What saves it is a level that does come back:
gains stay below the one that belongs to the level, since products and quotients keep the order, and so
the volume stays below the level itself, whatever is done to it and however it is rounded. There is such a
level if the factor is positive and the loudest volume times the factor is finite; if not, the volume is
lost once evening out is on and the volume bar is full.
-/

import ReleasePlayer.Proofs.Double.Returning
import ReleasePlayer.Proofs.Scalar.Order
import ReleasePlayer.Proofs.Volume.Ledger

namespace ReleasePlayer

open Double (Returns)

variable {G : Type} [GainStage Float G]

/-! ### What an output does to doubles -/

namespace Headroom

/-- What an output makes of a gain is between silence and that gain. -/
theorem clampOutput_between (headroom : Headroom) {gain : Float} (nonneg : 0.0 ≤ gain) :
    0.0 ≤ headroom.clampOutput gain ∧ headroom.clampOutput gain ≤ gain := by
  have ordinary : gain ≤ gain := Scalar.Ordered.refl_right nonneg
  cases headroom with
  | unity =>
    exact ⟨Scalar.le_clamp Scalar.Ordered.zero_le_one ordinary, Scalar.clamp_le_self nonneg⟩
  | amplified =>
    show 0.0 ≤ Scalar.atLeastZero gain ∧ Scalar.atLeastZero gain ≤ gain
    rw [Scalar.atLeastZero_of_nonneg nonneg]
    exact ⟨nonneg, ordinary⟩

theorem maxVolume_nonneg (headroom : Headroom) : (0.0 : Float) ≤ headroom.maxVolume := by
  cases headroom <;> decide +kernel

theorem maxVolume_isFinite (headroom : Headroom) : (headroom.maxVolume : Float).isFinite = true := by
  cases headroom <;> decide +kernel

theorem clampVolume_between (headroom : Headroom) {volume : Float} (ordinary : volume ≤ volume) :
    0.0 ≤ headroom.clampVolume volume ∧ headroom.clampVolume volume ≤ headroom.maxVolume :=
  ⟨Scalar.le_clamp headroom.maxVolume_nonneg ordinary,
    Scalar.clamp_le headroom.maxVolume_nonneg ordinary⟩

end Headroom

namespace VolumeControl

/-- Whatever the fraction is, a volume that can be compared belongs to it. -/
theorem volumeAt_nonneg (headroom : Headroom) (fraction : Float) :
    (0.0 : Float) ≤ volumeAt headroom fraction := by
  have within : ∃ part : Float, 0.0 ≤ part ∧ part ≤ 1.0 ∧
      volumeAt headroom fraction = headroom.snap (part * headroom.maxVolume) := by
    unfold volumeAt
    dsimp only
    split
    · rename_i finite
      have ordinary : fraction ≤ fraction := Scalar.Ordered.refl_of_isFinite finite
      exact ⟨_, Scalar.le_clamp Scalar.Ordered.zero_le_one ordinary,
        Scalar.clamp_le Scalar.Ordered.zero_le_one ordinary, rfl⟩
    · exact ⟨_, by decide +kernel, by decide +kernel, rfl⟩
  obtain ⟨part, nonneg, le, made⟩ := within
  have whole : ((1.0 : Float) * headroom.maxVolume).isFinite = true := by
    cases headroom <;> decide +kernel
  have product := (Double.mul_le_mul nonneg le (by decide +kernel) headroom.maxVolume_isFinite
    headroom.maxVolume_nonneg whole).1
  rw [made]
  unfold Headroom.snap
  split
  · decide +kernel
  · exact product

/-! ### Levels -/

/-- A level that comes back, and that no volume a listener can pick is above. -/
structure Covers (headroom : Headroom) (factor level : Float) : Prop where
  positive : 0.0 < factor
  isFinite : factor.isFinite = true
  returns : Returns factor level
  max_le : headroom.maxVolume ≤ level

/-- The factors that leave the loudest volume finite and can be divided by. -/
def Usable (headroom : Headroom) (factor : Float) : Prop :=
  0.0 < factor ∧ (headroom.maxVolume * factor).isFinite = true

theorem exists_covers {headroom : Headroom} {factor : Float} (usable : Usable headroom factor) :
    ∃ level, Covers headroom factor level := by
  obtain ⟨positive, bound⟩ := usable
  have nonneg := (Double.float_lt_iff.mp positive).1
  cases headroom with
  | unity =>
    have finite := Double.isFinite_of_mul Double.measures_one Double.one_pos nonneg bound
    exact ⟨1.0, positive, finite, Double.returns_one finite positive, by decide +kernel⟩
  | amplified =>
    have finite := Double.isFinite_of_mul Double.measures_threeHalves
      (Double.units_pos (by decide) (-52)) nonneg bound
    by_cases doubled : (2.0 * factor).isFinite = true
    · exact ⟨2.0, positive, finite, Double.returns_two finite positive doubled, by decide +kernel⟩
    · exact ⟨1.5, positive, finite, Double.returns_threeHalves finite positive doubled bound,
        by decide +kernel⟩

section Bounded

variable {headroom : Headroom} {factor level : Float} {control : VolumeControl Float G}

/-- The greatest gain that belongs to a level. -/
def ceiling (factor level : Float) (replaygain : Bool) : Float :=
  if replaygain then level * factor else level

/-- The gain of a control belongs to no volume above a level. -/
structure Bounded (headroom : Headroom) (factor level : Float) (control : VolumeControl Float G) :
    Prop where
  sameHeadroom : control.headroom = headroom
  sameFactor : control.compensation.factor = factor
  nonneg : 0.0 ≤ control.gain
  le : control.gain ≤ ceiling factor level control.replaygain
  beforeMute : 0.0 ≤ control.beforeMute

variable (covers : Covers headroom factor level)
include covers

/-- Evening a volume out takes it from below a level to below the gain of the level. -/
theorem Covers.apply {volume : Float} (nonneg : 0.0 ≤ volume) (le : volume ≤ level) :
    0.0 ≤ volume * factor ∧ volume * factor ≤ level * factor :=
  Double.mul_le_mul nonneg le covers.returns.isFinite covers.isFinite
    (Double.float_lt_iff.mp covers.positive).1 covers.returns.isFinite_mul

/-- And the other way round, since the level comes back. -/
theorem Covers.remove {gain : Float} (nonneg : 0.0 ≤ gain) (le : gain ≤ level * factor) :
    0.0 ≤ gain / factor ∧ gain / factor ≤ level := by
  have back := covers.returns.mul_div
  have between := Double.div_le_div nonneg le covers.returns.isFinite_mul covers.isFinite
    covers.positive (by rw [back]; exact covers.returns.isFinite)
  rwa [back] at between

/-- The volume that is worked out from a gain is below the level. -/
theorem Bounded.volume (bounded : Bounded headroom factor level control) :
    0.0 ≤ control.volume ∧ control.volume ≤ level := by
  have le := bounded.le
  unfold VolumeControl.volume Compensation.remove
  rw [bounded.sameFactor]
  cases isOn : control.replaygain with
  | true =>
    rw [isOn] at le
    exact covers.remove bounded.nonneg le
  | false =>
    rw [isOn] at le
    exact ⟨bounded.nonneg, le⟩

theorem Bounded.volume_isFinite (bounded : Bounded headroom factor level control) :
    control.volume.isFinite = true := by
  obtain ⟨nonneg, le⟩ := bounded.volume covers
  exact Double.isFinite_between (by decide +kernel) covers.returns.isFinite nonneg le

variable [GainStage.Faithful G]

omit covers in
/-- A control that is given a gain stays below the level if the gain does. -/
theorem bounded_setGain {gain : Float} (sameHeadroom : control.headroom = headroom)
    (sameFactor : control.compensation.factor = factor) (nonneg : 0.0 ≤ gain)
    (le : gain ≤ ceiling factor level control.replaygain) (beforeMute : 0.0 ≤ control.beforeMute) :
    Bounded headroom factor level (control.setGain gain) := by
  obtain ⟨outputNonneg, outputLe⟩ := control.headroom.clampOutput_between nonneg
  have given : (control.setGain gain).gain = control.headroom.clampOutput gain :=
    GainStage.Faithful.gain_setGain _ _
  refine ⟨sameHeadroom, sameFactor, ?_, ?_, beforeMute⟩
  · rw [given]
    exact outputNonneg
  · rw [given]
    exact Scalar.Ordered.le_trans outputLe le

/-- Whatever gain a control had, it is below the level once it is given a volume. -/
theorem bounded_setVolume {volume : Float} (sameHeadroom : control.headroom = headroom)
    (sameFactor : control.compensation.factor = factor) (ordinary : volume ≤ volume)
    (beforeMute : 0.0 ≤ control.beforeMute) :
    Bounded headroom factor level (control.setVolume volume) := by
  obtain ⟨nonneg, le⟩ := headroom.clampVolume_between ordinary
  have low := Scalar.Ordered.le_trans le covers.max_le
  have between : 0.0 ≤ control.gainFor volume ∧
      control.gainFor volume ≤ ceiling factor level control.replaygain := by
    unfold gainFor Compensation.apply ceiling
    rw [sameHeadroom, sameFactor]
    split
    · exact covers.apply nonneg low
    · exact ⟨nonneg, low⟩
  exact bounded_setGain sameHeadroom sameFactor between.1 between.2 beforeMute

theorem Bounded.toggleReplaygain (bounded : Bounded headroom factor level control) :
    Bounded headroom factor level control.toggleReplaygain := by
  have le := bounded.le
  have between : 0.0 ≤ (if control.replaygain then control.gain / factor else control.gain * factor) ∧
      (if control.replaygain then control.gain / factor else control.gain * factor) ≤
        ceiling factor level !control.replaygain := by
    cases isOn : control.replaygain with
    | true =>
      rw [isOn] at le
      exact covers.remove bounded.nonneg le
    | false =>
      rw [isOn] at le
      exact covers.apply bounded.nonneg le
  unfold VolumeControl.toggleReplaygain
  rw [bounded.sameFactor]
  exact bounded_setGain bounded.sameHeadroom bounded.sameFactor between.1 between.2 bounded.beforeMute

theorem Bounded.toggleMute (bounded : Bounded headroom factor level control) :
    Bounded headroom factor level control.toggleMute := by
  unfold VolumeControl.toggleMute
  split
  · exact bounded_setVolume covers bounded.sameHeadroom bounded.sameFactor
      (Scalar.Ordered.refl_right bounded.beforeMute) bounded.beforeMute
  · have silence : (0.0 : Float) ≤ ceiling factor level control.replaygain :=
      Scalar.Ordered.le_trans bounded.nonneg bounded.le
    exact bounded_setGain bounded.sameHeadroom bounded.sameFactor (by decide +kernel) silence
      (bounded.volume covers).1

/-- Whatever is done to a volume, except to set it to what is undefined, keeps it below the level. -/
theorem Bounded.act (bounded : Bounded headroom factor level control) {action : VolumeAction Float}
    (ordinary : ∀ volume, action = .set volume → volume ≤ volume) :
    Bounded headroom factor level (control.act action) := by
  cases action with
  | set volume =>
    exact bounded_setVolume covers bounded.sameHeadroom bounded.sameFactor (ordinary volume rfl)
      bounded.beforeMute
  | fraction fraction =>
    exact bounded_setVolume covers bounded.sameHeadroom bounded.sameFactor
      (Scalar.Ordered.refl_right (volumeAt_nonneg _ fraction)) bounded.beforeMute
  | mute => exact bounded.toggleMute covers
  | replaygain => exact bounded.toggleReplaygain covers

end Bounded

/-! ### Factors that cannot be used -/

/-- A factor is neither negative nor undefined, and without an amplifier it is at most one. -/
structure IsFactor (headroom : Headroom) (factor : Float) : Prop where
  nonneg : 0.0 ≤ factor
  limited : headroom = .unity → factor ≤ 1.0

variable [GainStage.Faithful G]

/-- The full volume bar is the loudest volume. -/
theorem full_eq (headroom : Headroom) :
    headroom.clampVolume (volumeAt headroom 1.0) = (headroom.maxVolume : Float) := by
  cases headroom <;> decide +kernel

/-- With evening out on, the volume is lost at the full volume bar if the factor cannot be used. -/
theorem volume_not_isFinite {control : VolumeControl Float G}
    (isFactor : IsFactor control.headroom control.compensation.factor)
    (unusable : ¬ Usable control.headroom control.compensation.factor)
    (isOn : control.replaygain = true) :
    ¬ (control.setFraction 1.0).volume.isFinite = true := by
  have volume : (control.setFraction 1.0).volume =
      (control.setFraction 1.0).gain / control.compensation.factor := by
    unfold VolumeControl.volume Compensation.remove
    exact if_pos isOn
  rw [volume]
  by_cases positive : 0.0 < control.compensation.factor
  · refine Double.not_isFinite_div_of_infinity _ ?_
    have infinite : ¬ ((control.headroom.maxVolume : Float) * control.compensation.factor).isFinite =
        true := fun finite => unusable ⟨positive, finite⟩
    have given : (control.setFraction 1.0).gain =
        control.headroom.clampOutput (control.gainFor (volumeAt control.headroom 1.0)) :=
      GainStage.Faithful.gain_setGain _ _
    have full : control.gainFor (volumeAt control.headroom 1.0) =
        control.headroom.maxVolume * control.compensation.factor := by
      unfold gainFor Compensation.apply
      rw [if_pos isOn]
      exact congrArg (· * control.compensation.factor) (full_eq _)
    rw [given, full]
    cases headroom : control.headroom with
    | unity =>
      have le := isFactor.limited headroom
      have finite := Double.isFinite_between (by decide +kernel) (by decide +kernel) isFactor.nonneg le
      rw [headroom] at infinite
      exact absurd (Double.returns_one finite positive).isFinite_mul infinite
    | amplified =>
      rw [headroom] at infinite
      have product := Double.unpack_mul_of_not_isFinite Double.measures_threeHalves
        (Double.units_pos (by decide) (-52)) positive infinite
      have nonneg : 0.0 ≤ (1.5 : Float) * control.compensation.factor := by
        rw [Double.zero_le_iff, product]
        trivial
      exact (congrArg (fun gain : Float => gain.toModel.unpack)
        (Scalar.atLeastZero_of_nonneg nonneg)).trans product
  · exact Double.not_isFinite_div_of_zero _ (Double.unpack_of_not_pos isFactor.nonneg positive)

end VolumeControl

end ReleasePlayer
