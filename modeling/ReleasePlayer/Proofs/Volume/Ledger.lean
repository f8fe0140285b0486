/-
This file proves that the control of a volume keeps two volumes and a switch, though it stores
neither volume as such: the one that the listener hears of is worked out from the gain of the output
each time. The ledger is the plain machine that stores them. In exact arithmetic a control follows
its ledger through every sequence of actions, so that switching evening out on and off, muted or not,
changes neither the volume nor what comes back after silence. A control that was never given a volume
may have a gain that no volume in the listener's range amounts to; it follows its ledger from the
first volume it is given.
-/

import Mathlib.Algebra.Order.Field.Basic
import ReleasePlayer.InMemory.Gain
import ReleasePlayer.Proofs.Scalar.Exact
import ReleasePlayer.Volume

namespace ReleasePlayer

open InMemory (Gain)

/-! ### Actions -/

/-- What is done to a volume. -/
inductive VolumeAction (α : Type) where
  | set (volume : α)
  | fraction (fraction : α)
  | mute
  | replaygain

namespace VolumeAction

variable {α : Type}

/-- Whether an action gives a volume. -/
def gives : VolumeAction α → Bool
  | set _ => true
  | fraction _ => true
  | mute => false
  | replaygain => false

/-- Whether an action switches evening out on or off. -/
def switches : VolumeAction α → Bool
  | replaygain => true
  | _ => false

/-- Whether actions give a volume before anything but switching evening out. -/
def giveFirst : List (VolumeAction α) → Bool
  | [] => false
  | action :: later => action.gives || action.switches && giveFirst later

end VolumeAction

namespace VolumeControl

variable {α G : Type} [Scalar α] [GainStage α G]

/-- The control after an action. -/
def act (control : VolumeControl α G) : VolumeAction α → VolumeControl α G
  | .set volume => control.setVolume volume
  | .fraction fraction => control.setFraction fraction
  | .mute => control.toggleMute
  | .replaygain => control.toggleReplaygain

/-- The control after one action after the other. -/
def actAll (control : VolumeControl α G) (actions : List (VolumeAction α)) : VolumeControl α G :=
  actions.foldl act control

end VolumeControl

/-- An output whose gain is what it was last set to. -/
class GainStage.Faithful {α : outParam Type} (G : Type) [GainStage α G] : Prop where
  gain_setGain (output : G) (gain : α) : GainStage.gain (GainStage.setGain output gain) = gain

instance {α : Type} : GainStage.Faithful (Gain α) := ⟨fun _ _ => rfl⟩

/-! ### The ledger -/

/-- The volume that the listener hears of, the one to go back to from silence, and whether albums are
evened out. -/
structure Ledger (K : Type) where
  volume : K
  beforeMute : K
  isOn : Bool

namespace Ledger

variable {K : Type} [Exact K]

/-- The ledger that is opened for a new control. -/
def opening (control : VolumeControl K (Gain K)) : Ledger K :=
  ⟨control.volume, 0, control.replaygain⟩

/-- The volume picked at a fraction of the volume bar. -/
def picked (headroom : Headroom) (fraction : K) : K :=
  let volume := max 0 (min 1 fraction) * headroom.maxVolume
  if headroom = .amplified ∧ |volume - 1| < 1 / 20 then 1 else volume

/-- The ledger after an action. -/
def act (headroom : Headroom) (ledger : Ledger K) : VolumeAction K → Ledger K
  | .set volume => { ledger with volume := max 0 (min headroom.maxVolume volume) }
  | .fraction fraction =>
    { ledger with volume := max 0 (min headroom.maxVolume (picked headroom fraction)) }
  | .mute =>
    if ledger.volume = 0 then { ledger with volume := ledger.beforeMute }
    else { ledger with beforeMute := ledger.volume, volume := 0 }
  | .replaygain => { ledger with isOn := !ledger.isOn }

/-- The ledger after one action after the other. -/
def actAll (headroom : Headroom) (ledger : Ledger K) (actions : List (VolumeAction K)) :
    Ledger K :=
  actions.foldl (act headroom) ledger

end Ledger

/-! ### What an output does in exact arithmetic -/

namespace Headroom

variable {K : Type} [Exact K]

theorem maxVolume_eq (headroom : Headroom) :
    (headroom.maxVolume : K) = if headroom = .amplified then 3 / 2 else 1 := by
  cases headroom with
  | unity => exact Exact.one_literal
  | amplified => exact Exact.three_halves_literal

theorem maxVolume_pos (headroom : Headroom) : (0 : K) < headroom.maxVolume := by
  rw [maxVolume_eq]
  split <;> norm_num

theorem clampVolume_eq (headroom : Headroom) (volume : K) :
    headroom.clampVolume volume = max 0 (min headroom.maxVolume volume) := by
  unfold clampVolume
  rw [Exact.zero_literal, Exact.clamp_eq headroom.maxVolume_pos.le]

theorem snap_eq (headroom : Headroom) (volume : K) :
    headroom.snap volume =
      if headroom = .amplified ∧ |volume - 1| < 1 / 20 then 1 else volume := by
  unfold snap snapReach allowsBoost
  rw [Exact.distance_eq, Exact.one_literal, Exact.twentieth_literal]
  simp only [beq_iff_eq]

/-- What an output can do is left as it is: no gain below zero, and none above one without an
amplifier. -/
theorem clampOutput_eq (headroom : Headroom) {gain : K} (nonneg : 0 ≤ gain)
    (limited : headroom = .unity → gain ≤ 1) : headroom.clampOutput gain = gain := by
  cases headroom with
  | unity =>
    unfold clampOutput
    dsimp only
    rw [Exact.zero_literal, Exact.one_literal, Exact.clamp_eq zero_le_one,
      min_eq_right (limited rfl), max_eq_right nonneg]
  | amplified =>
    unfold clampOutput
    dsimp only
    rw [Exact.atLeastZero_eq, max_eq_right nonneg]

end Headroom

/-! ### Ledgers stay within the listener's range -/

namespace Ledger

variable {K : Type} [Exact K]

/-- The gain that evens a volume out, or does not. -/
def gain (ledger : Ledger K) (factor : K) : K :=
  if ledger.isOn then ledger.volume * factor else ledger.volume

/-- Both volumes are in the listener's range. -/
structure Within (headroom : Headroom) (ledger : Ledger K) : Prop where
  volume_nonneg : 0 ≤ ledger.volume
  volume_le : ledger.volume ≤ headroom.maxVolume
  beforeMute_nonneg : 0 ≤ ledger.beforeMute
  beforeMute_le : ledger.beforeMute ≤ headroom.maxVolume

theorem act_set_of_within {headroom : Headroom} {ledger : Ledger K} {volume : K}
    (nonneg : 0 ≤ volume) (le : volume ≤ headroom.maxVolume) :
    ledger.act headroom (.set volume) = { ledger with volume := volume } := by
  unfold act
  dsimp only
  rw [min_eq_right le, max_eq_right nonneg]

theorem act_mute_of_silent {headroom : Headroom} {ledger : Ledger K} (silent : ledger.volume = 0) :
    ledger.act headroom .mute = { ledger with volume := ledger.beforeMute } :=
  if_pos silent

theorem act_mute_of_loud {headroom : Headroom} {ledger : Ledger K} (loud : ledger.volume ≠ 0) :
    ledger.act headroom .mute = ⟨0, ledger.volume, ledger.isOn⟩ :=
  if_neg loud

theorem within_act {headroom : Headroom} {ledger : Ledger K} (within : Within headroom ledger)
    (action : VolumeAction K) : Within headroom (ledger.act headroom action) := by
  have pos := headroom.maxVolume_pos (K := K)
  cases action with
  | set volume =>
    exact { within with
      volume_nonneg := le_max_left _ _
      volume_le := max_le pos.le (min_le_left _ _) }
  | fraction fraction =>
    exact { within with
      volume_nonneg := le_max_left _ _
      volume_le := max_le pos.le (min_le_left _ _) }
  | mute =>
    unfold act
    dsimp only
    split
    · exact { within with
        volume_nonneg := within.beforeMute_nonneg
        volume_le := within.beforeMute_le }
    · exact ⟨le_rfl, pos.le, within.volume_nonneg, within.volume_le⟩
  | replaygain => exact ⟨within.1, within.2, within.3, within.4⟩

theorem gain_nonneg {headroom : Headroom} {ledger : Ledger K} (within : Within headroom ledger)
    {factor : K} (positive : 0 < factor) : 0 ≤ ledger.gain factor := by
  unfold gain
  split
  · exact mul_nonneg within.volume_nonneg positive.le
  · exact within.volume_nonneg

/-- Without an amplifier a factor of at most one keeps the gain within what the output can do. -/
theorem gain_le_one {ledger : Ledger K} (within : Within .unity ledger) {factor : K}
    (positive : 0 < factor) (limited : factor ≤ 1) : ledger.gain factor ≤ 1 := by
  have volume_le : ledger.volume ≤ 1 := by
    have le := within.volume_le
    rw [Headroom.maxVolume_eq, if_neg (by decide)] at le
    exact le
  unfold gain
  split
  · exact mul_le_one₀ volume_le positive.le limited
  · exact volume_le

theorem gain_eq_zero_iff (ledger : Ledger K) {factor : K} (positive : 0 < factor) :
    ledger.gain factor = 0 ↔ ledger.volume = 0 := by
  unfold gain
  split
  · rw [mul_eq_zero, or_iff_left positive.ne']
  · rfl

end Ledger

/-! ### Controls follow their ledgers -/

namespace VolumeControl

variable {K G : Type} [Exact K] [GainStage K G]

/-- A control has the gain, the switch and the volume before silence that a ledger says, and can
play every volume in the listener's range. -/
structure Follows (control : VolumeControl K G) (ledger : Ledger K) : Prop where
  positive : 0 < control.compensation.factor
  limited : control.headroom = .unity → control.compensation.factor ≤ 1
  within : ledger.Within control.headroom
  gain : control.gain = ledger.gain control.compensation.factor
  replaygain : control.replaygain = ledger.isOn
  beforeMute : control.beforeMute = ledger.beforeMute

variable {control : VolumeControl K G} {ledger : Ledger K}

/-- The volume that is worked out from the gain is the one of the ledger. -/
theorem Follows.volume_eq (follows : Follows control ledger) : control.volume = ledger.volume := by
  unfold volume Compensation.remove
  rw [follows.gain, follows.replaygain]
  unfold Ledger.gain
  split
  · exact mul_div_cancel_right₀ _ follows.positive.ne'
  · rfl

theorem Follows.gain_le_one (follows : Follows control ledger)
    (unity : control.headroom = .unity) : control.gain ≤ 1 := by
  have within := follows.within
  rw [unity] at within
  rw [follows.gain]
  exact Ledger.gain_le_one within follows.positive (follows.limited unity)

/-- A control that is given the gain of a ledger follows it. -/
theorem follows_setGain [GainStage.Faithful G] (control : VolumeControl K G)
    (positive : 0 < control.compensation.factor)
    (limited : control.headroom = .unity → control.compensation.factor ≤ 1)
    (within : ledger.Within control.headroom) (replaygain : control.replaygain = ledger.isOn)
    (beforeMute : control.beforeMute = ledger.beforeMute) :
    Follows (control.setGain (ledger.gain control.compensation.factor)) ledger := by
  refine ⟨positive, limited, within, ?_, replaygain, beforeMute⟩
  refine (GainStage.Faithful.gain_setGain _ _).trans ?_
  refine control.headroom.clampOutput_eq (Ledger.gain_nonneg within positive) fun unity => ?_
  rw [unity] at within
  exact Ledger.gain_le_one within positive (limited unity)

/-- A control agrees with a ledger on all but the volume. -/
structure Ready (control : VolumeControl K G) (ledger : Ledger K) : Prop where
  positive : 0 < control.compensation.factor
  limited : control.headroom = .unity → control.compensation.factor ≤ 1
  within : Ledger.Within control.headroom { ledger with volume := 0 }
  replaygain : control.replaygain = ledger.isOn
  beforeMute : control.beforeMute = ledger.beforeMute

theorem Follows.ready (follows : Follows control ledger) : Ready control ledger where
  positive := follows.positive
  limited := follows.limited
  within := { follows.within with
    volume_nonneg := le_rfl
    volume_le := control.headroom.maxVolume_pos.le }
  replaygain := follows.replaygain
  beforeMute := follows.beforeMute

variable [GainStage.Faithful G]

/-- A control that is given a volume follows the ledger that is given the same, whatever its gain was
before. -/
theorem Ready.set (ready : Ready control ledger) (volume : K) :
    Follows (control.setVolume volume) (ledger.act control.headroom (.set volume)) := by
  have given : control.gainFor volume =
      (ledger.act control.headroom (.set volume)).gain control.compensation.factor := by
    unfold gainFor Compensation.apply
    rw [Headroom.clampVolume_eq, ready.replaygain]
    rfl
  unfold setVolume
  rw [given]
  exact follows_setGain control ready.positive ready.limited
    (Ledger.within_act ready.within (.set volume)) ready.replaygain ready.beforeMute

theorem volumeAt_eq (headroom : Headroom) (fraction : K) :
    volumeAt headroom fraction = Ledger.picked headroom fraction := by
  unfold volumeAt Ledger.picked
  dsimp only
  rw [if_pos (Exact.isFinite_eq fraction), Exact.zero_literal, Exact.one_literal,
    Exact.clamp_eq zero_le_one, Headroom.snap_eq]

theorem Ready.fraction (ready : Ready control ledger) (fraction : K) :
    Follows (control.setFraction fraction) (ledger.act control.headroom (.fraction fraction)) := by
  have given := ready.set (volumeAt control.headroom fraction)
  rw [volumeAt_eq] at given
  unfold setFraction
  rw [volumeAt_eq]
  exact given

omit [GainStage.Faithful G] in
theorem Ready.switch (ready : Ready control ledger) :
    Ready control.toggleReplaygain (ledger.act control.headroom .replaygain) where
  positive := ready.positive
  limited := ready.limited
  within := { ready.within with }
  replaygain := congrArg Bool.not ready.replaygain
  beforeMute := ready.beforeMute

theorem Follows.mute (follows : Follows control ledger) :
    Follows control.toggleMute (ledger.act control.headroom .mute) := by
  have silent := ledger.gain_eq_zero_iff follows.positive
  have within := follows.within
  unfold toggleMute
  rw [Exact.same_eq, Exact.zero_literal, follows.gain]
  by_cases muted : ledger.volume = 0
  · have back := follows.ready.set ledger.beforeMute
    rw [Ledger.act_set_of_within within.beforeMute_nonneg within.beforeMute_le] at back
    rw [if_pos (decide_eq_true (silent.mpr muted)), Ledger.act_mute_of_silent muted,
      follows.beforeMute]
    exact back
  · have quiet := Ledger.within_act within .mute
    rw [Ledger.act_mute_of_loud muted] at quiet
    have silence : Ledger.gain ⟨0, ledger.volume, ledger.isOn⟩ control.compensation.factor = 0 :=
      (Ledger.gain_eq_zero_iff _ follows.positive).mpr rfl
    have sound := follows_setGain { control with beforeMute := ledger.volume }
      follows.positive follows.limited quiet follows.replaygain rfl
    dsimp only at sound
    rw [silence] at sound
    rw [if_neg (by rw [decide_eq_true_iff]; exact mt silent.mp muted),
      Ledger.act_mute_of_loud muted, follows.volume_eq]
    exact sound

/-- Switching evening out changes the gain by the factor, so that the volume stays. -/
theorem Follows.switch (follows : Follows control ledger) :
    Follows control.toggleReplaygain (ledger.act control.headroom .replaygain) := by
  have switched : (if control.replaygain then control.gain / control.compensation.factor
      else control.gain * control.compensation.factor) =
      (ledger.act control.headroom .replaygain).gain control.compensation.factor := by
    rw [follows.gain, follows.replaygain]
    unfold Ledger.act Ledger.gain
    cases ledger.isOn with
    | true => exact mul_div_cancel_right₀ _ follows.positive.ne'
    | false => rfl
  unfold toggleReplaygain
  dsimp only
  rw [switched]
  exact follows_setGain { control with replaygain := !control.replaygain }
    follows.positive follows.limited (Ledger.within_act follows.within .replaygain)
    (congrArg Bool.not follows.replaygain) follows.beforeMute

theorem Follows.act (follows : Follows control ledger) (action : VolumeAction K) :
    Follows (control.act action) (ledger.act control.headroom action) := by
  cases action with
  | set volume => exact follows.ready.set volume
  | fraction fraction => exact follows.ready.fraction fraction
  | mute => exact follows.mute
  | replaygain => exact follows.switch

/-! ### Runs -/

omit [GainStage.Faithful G] in
/-- No action changes what the output can do or how albums are evened out. -/
theorem act_fixed (control : VolumeControl K G) (action : VolumeAction K) :
    (control.act action).headroom = control.headroom ∧
      (control.act action).compensation = control.compensation := by
  cases action with
  | set volume => exact ⟨rfl, rfl⟩
  | fraction fraction => exact ⟨rfl, rfl⟩
  | mute =>
    show control.toggleMute.headroom = _ ∧ control.toggleMute.compensation = _
    unfold toggleMute
    split <;> exact ⟨rfl, rfl⟩
  | replaygain => exact ⟨rfl, rfl⟩

omit [GainStage.Faithful G] in
theorem actAll_fixed (control : VolumeControl K G) (actions : List (VolumeAction K)) :
    (control.actAll actions).headroom = control.headroom ∧
      (control.actAll actions).compensation = control.compensation := by
  induction actions generalizing control with
  | nil => exact ⟨rfl, rfl⟩
  | cons action later inductionHypothesis =>
    obtain ⟨headroom, compensation⟩ := control.act_fixed action
    obtain ⟨laterHeadroom, laterCompensation⟩ := inductionHypothesis (control.act action)
    exact ⟨laterHeadroom.trans headroom, laterCompensation.trans compensation⟩

/-- A control that follows its ledger goes on to follow it. -/
theorem Follows.actAll (follows : Follows control ledger) (actions : List (VolumeAction K)) :
    Follows (control.actAll actions) (ledger.actAll control.headroom actions) := by
  induction actions generalizing control ledger with
  | nil => exact follows
  | cons action later inductionHypothesis =>
    have followed := inductionHypothesis (follows.act action)
    rw [(control.act_fixed action).1] at followed
    exact followed

/-- A control that agrees with its ledger on all but the volume follows it once it is given one. -/
theorem Ready.actAll (ready : Ready control ledger) {actions : List (VolumeAction K)}
    (given : VolumeAction.giveFirst actions = true) :
    Follows (control.actAll actions) (ledger.actAll control.headroom actions) := by
  induction actions generalizing control ledger with
  | nil => cases given
  | cons action later inductionHypothesis =>
    cases action with
    | set volume => exact (ready.set volume).actAll later
    | fraction fraction => exact (ready.fraction fraction).actAll later
    | mute => cases given
    | replaygain => exact inductionHypothesis ready.switch given

/-! ### New controls -/

theorem limitedTo_positive {compensation : Compensation K} (positive : 0 < compensation.factor)
    (headroom : Headroom) : 0 < (compensation.limitedTo headroom).factor := by
  unfold Compensation.limitedTo
  split
  · exact Exact.one_literal.trans_gt one_pos
  · exact positive

theorem limitedTo_le_one (compensation : Compensation K) {headroom : Headroom}
    (unity : headroom = .unity) : (compensation.limitedTo headroom).factor ≤ 1 := by
  subst unity
  unfold Compensation.limitedTo Compensation.exceeds
  rw [Exact.one_literal]
  split
  · exact le_rfl
  · rename_i within
    simp only [Headroom.allowsBoost, Bool.and_eq_true, decide_eq_true_eq, not_and, not_lt] at within
    exact within (by decide)

omit [GainStage.Faithful G] in
/-- A new control agrees on all but the volume with a ledger that has nothing to go back to. -/
theorem ready_of_start (output : G) {compensation : Compensation K}
    (positive : 0 < compensation.factor) (replaygain : Bool) (volume : K) :
    Ready (start output compensation replaygain).1 ⟨volume, 0, replaygain⟩ where
  positive := limitedTo_positive positive _
  limited := limitedTo_le_one compensation
  within := ⟨le_rfl, (Headroom.maxVolume_pos _).le, le_rfl, (Headroom.maxVolume_pos _).le⟩
  replaygain := rfl
  beforeMute := Exact.zero_literal

theorem ready_start (headroom : Headroom) {compensation : Compensation K}
    (positive : 0 < compensation.factor) (replaygain : Bool) :
    Ready (start (Gain.ofHeadroom headroom) compensation replaygain).1
      (.opening (start (Gain.ofHeadroom headroom) compensation replaygain).1) :=
  ready_of_start _ positive replaygain _

/-- A new control whose volume is in the listener's range follows its ledger at once. -/
theorem follows_start {headroom : Headroom} {compensation : Compensation K}
    (positive : 0 < compensation.factor) {replaygain : Bool}
    (inRange : (start (Gain.ofHeadroom headroom) compensation replaygain).1.volume ≤
      headroom.maxVolume) :
    Follows (start (Gain.ofHeadroom headroom) compensation replaygain).1
      (.opening (start (Gain.ofHeadroom headroom) compensation replaygain).1) := by
  have ready := ready_start headroom positive replaygain
  have gain : (start (Gain.ofHeadroom headroom) compensation replaygain).1.gain = (1 : K) :=
    Exact.one_literal
  have volume : (start (Gain.ofHeadroom headroom) compensation replaygain).1.volume =
      if replaygain then 1 / (compensation.limitedTo headroom).factor else (1 : K) := by
    unfold VolumeControl.volume Compensation.remove
    rw [gain]
    rfl
  refine ⟨ready.positive, ready.limited, ⟨?_, inRange, le_rfl, headroom.maxVolume_pos.le⟩, ?_,
    rfl, ready.beforeMute⟩
  · show 0 ≤ (start (Gain.ofHeadroom headroom) compensation replaygain).1.volume
    rw [volume]
    split
    · exact (one_div_pos.mpr ready.positive).le
    · exact zero_le_one
  · rw [gain]
    unfold Ledger.gain Ledger.opening
    dsimp only
    rw [volume]
    cases replaygain with
    | true => exact (one_div_mul_cancel ready.positive.ne').symm
    | false => rfl

/-- What can be told of a new control after some actions is what its ledger says, and the volume and
the gain are what the output can do. -/
structure KeepsBooks (control : VolumeControl K (Gain K)) (actions : List (VolumeAction K)) :
    Prop where
  volume : (control.actAll actions).volume =
    ((Ledger.opening control).actAll control.headroom actions).volume
  gain : (control.actAll actions).gain =
    ((Ledger.opening control).actAll control.headroom actions).gain control.compensation.factor
  replaygain : (control.actAll actions).replaygain =
    ((Ledger.opening control).actAll control.headroom actions).isOn
  beforeMute : (control.actAll actions).beforeMute =
    ((Ledger.opening control).actAll control.headroom actions).beforeMute
  volume_nonneg : 0 ≤ (control.actAll actions).volume
  volume_le : (control.actAll actions).volume ≤ control.maxVolume
  gain_in_unit : control.headroom = .unity →
    0 ≤ (control.actAll actions).gain ∧ (control.actAll actions).gain ≤ 1

theorem Follows.keepsBooks {control : VolumeControl K (Gain K)} {actions : List (VolumeAction K)}
    (follows : Follows (control.actAll actions)
      ((Ledger.opening control).actAll control.headroom actions)) :
    KeepsBooks control actions := by
  obtain ⟨sameHeadroom, sameCompensation⟩ := control.actAll_fixed actions
  have within := follows.within
  rw [sameHeadroom] at within
  have gain := follows.gain
  rw [sameCompensation] at gain
  refine ⟨follows.volume_eq, gain, follows.replaygain, follows.beforeMute, ?_, ?_, fun unity => ?_⟩
  · rw [follows.volume_eq]
    exact within.volume_nonneg
  · rw [follows.volume_eq]
    exact within.volume_le
  · refine ⟨?_, follows.gain_le_one (sameHeadroom.trans unity)⟩
    rw [follows.gain]
    exact Ledger.gain_nonneg within follows.positive

/-- In exact arithmetic a new control keeps its books through every sequence of actions if and only
if its first volume is in the listener's range, and through every sequence that gives it a volume
before it is muted. -/
theorem keepsBooks_iff_volume_le (headroom : Headroom) {compensation : Compensation K}
    (positive : 0 < compensation.factor) (replaygain : Bool) :
    let control := (start (Gain.ofHeadroom headroom) compensation replaygain).1
    ((∀ action later, KeepsBooks control (action :: later)) ↔
        control.volume ≤ control.maxVolume) ∧
      ∀ actions, VolumeAction.giveFirst actions = true → KeepsBooks control actions := by
  intro control
  refine ⟨⟨fun keeps => ?_, fun inRange action later => ?_⟩, fun actions given => ?_⟩
  · -- one switch of evening out leaves the volume in the ledger as it was
    have switched := keeps .replaygain []
    exact switched.volume.symm.trans_le switched.volume_le
  · exact ((follows_start positive inRange).actAll (action :: later)).keepsBooks
  · exact ((ready_start headroom positive replaygain).actAll given).keepsBooks

/-- A listener of a loud album picks two thirds of the volume bar, goes to silence, switches evening
out off, and comes back from silence. -/
theorem loud_album_keepsBooks :
    0 < (1 / 10 : ℚ) ∧
      let control := (start (Gain.ofHeadroom .amplified) ⟨some (-2), -12, (1 / 10 : ℚ)⟩ true).1
      KeepsBooks control [.fraction (2 / 3), .mute, .replaygain, .mute] :=
  ⟨by norm_num, (keepsBooks_iff_volume_le .amplified (by norm_num) true).2 _ rfl⟩

/-- A new control of a loud album has a gain of one, which amounts to ten times full volume. Without
an amplifier the first switch of evening out cannot keep that volume, nor does the second bring the
gain back; with one the volume stays out of range. -/
theorem new_control_loses_volume :
    Compensation.ofLoudness (-2 : ℚ) = .ok ⟨some (-2), -12, 1 / 10⟩ ∧
      (let control := (start (Gain.ofHeadroom .unity) ⟨some (-2), -12, (1 / 10 : ℚ)⟩ true).1
      control.volume = 10 ∧ control.maxVolume = 1 ∧ (control.act .replaygain).volume = 1 ∧
        control.gain = 1 ∧ (control.actAll [.replaygain, .replaygain]).gain = 1 / 10 ∧
        (control.act .replaygain).volume ≠
          ((Ledger.opening control).act .unity .replaygain).volume) ∧
      let control := (start (Gain.ofHeadroom .amplified) ⟨some (-2), -12, (1 / 10 : ℚ)⟩ true).1
      (control.act .replaygain).volume = 10 ∧ control.maxVolume = 3 / 2 := by
  decide +kernel

end VolumeControl

end ReleasePlayer
