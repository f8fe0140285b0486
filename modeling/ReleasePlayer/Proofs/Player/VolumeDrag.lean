/-
This file proves that a volume bar has a scale of its own. Wherever the pointer is taken, the volume after
that is the one that the bar shows there, and nothing of what the player was before has a part in it: the
gain is set to the volume times the factor of the album, and what the listener hears of is that gain
without the factor. The scale goes in one direction from silence to the loudest volume, and on an
amplified output it keeps clear of full volume on both sides and stands still there in between.
-/

import ReleasePlayer.Proofs.Bar
import ReleasePlayer.Proofs.Player.AlbumIndependence
import ReleasePlayer.Proofs.Player.Display

namespace ReleasePlayer

variable {K : Type} [Exact K]

/-! ### Full volume -/

namespace Headroom

theorem snap_mono (headroom : Headroom) : Monotone (headroom.snap : K → K) := by
  intro volume louder le
  rw [snap_eq, snap_eq]
  by_cases amplified : headroom = .amplified
  · simp only [amplified, true_and, abs_lt]
    split
    · rename_i close
      split
      · exact le_rfl
      · -- what is past a volume close to full volume, and not close to it, is above
        rename_i apart
        by_contra below
        exact apart ⟨by linarith, by linarith⟩
    · rename_i apart
      split
      · rename_i close
        by_contra above
        exact apart ⟨by linarith, by linarith⟩
      · exact le
  · rw [if_neg fun both => amplified both.1, if_neg fun both => amplified both.1]
    exact le

theorem snap_eq_one_or (volume : K) :
    amplified.snap volume = 1 ∨ 1 / 20 ≤ |amplified.snap volume - 1| := by
  rw [snap_eq]
  split
  · exact Or.inl rfl
  · rename_i apart
    exact Or.inr (not_lt.mp fun close => apart ⟨rfl, close⟩)

theorem snap_zero (headroom : Headroom) : headroom.snap (0 : K) = 0 := by
  rw [snap_eq]
  refine if_neg fun both => absurd both.2 ?_
  norm_num

theorem snap_maxVolume (headroom : Headroom) :
    headroom.snap (headroom.maxVolume : K) = headroom.maxVolume := by
  rw [snap_eq]
  refine if_neg fun both => absurd both.2 ?_
  rw [maxVolume_eq, if_pos both.1]
  norm_num

end Headroom

/-! ### The scale of a volume bar -/

namespace Bar

/-- The volume that a bar shows at a coordinate. -/
def volumeAt (bar : Bar K) (headroom : Headroom) (axis : BarAxis) (place : K) : K :=
  headroom.snap (bar.fractionAt axis place * headroom.maxVolume)

variable {bar : Bar K} {headroom : Headroom} {axis : BarAxis} {place : K}

theorem picked_fractionAt (headroom : Headroom) (bar : Bar K) (axis : BarAxis) (place : K) :
    Ledger.picked headroom (bar.fractionAt axis place) = bar.volumeAt headroom axis place := by
  obtain ⟨nonneg, le⟩ : bar.fractionAt axis place ∈ Set.Icc (0 : K) 1 := fractionAt_mem
  unfold Ledger.picked volumeAt
  rw [min_eq_right le, max_eq_right nonneg, Headroom.snap_eq]

theorem volumeAt_of_fraction_zero (empty : bar.fractionAt axis place = 0) :
    bar.volumeAt headroom axis place = 0 := by
  unfold volumeAt
  rw [empty, zero_mul, Headroom.snap_zero]

theorem volumeAt_of_fraction_one (full : bar.fractionAt axis place = 1) :
    bar.volumeAt headroom axis place = headroom.maxVolume := by
  unfold volumeAt
  rw [full, one_mul, Headroom.snap_maxVolume]

theorem volumeAt_le {other : K}
    (le : bar.fractionAt axis place ≤ bar.fractionAt axis other) :
    bar.volumeAt headroom axis place ≤ bar.volumeAt headroom axis other :=
  headroom.snap_mono (mul_le_mul_of_nonneg_right le headroom.maxVolume_pos.le)

section Horizontal

variable (wide : 0 < bar.width)
include wide

theorem volumeAt_mono : Monotone (bar.volumeAt headroom .horizontal) :=
  fun _ _ le => volumeAt_le (passed_mono wide le)

theorem volumeAt_of_left (left : place ≤ bar.left) : bar.volumeAt headroom .horizontal place = 0 :=
  volumeAt_of_fraction_zero (passed_of_le wide left)

theorem volumeAt_of_right (right : bar.left + bar.width ≤ place) :
    bar.volumeAt headroom .horizontal place = headroom.maxVolume :=
  volumeAt_of_fraction_one (passed_of_ge wide right)

end Horizontal

section Vertical

variable (high : 0 < bar.height)
include high

theorem volumeAt_anti : Antitone (bar.volumeAt headroom .vertical) :=
  fun _ _ le => volumeAt_le (sub_le_sub_left (passed_mono high le) 1)

theorem volumeAt_of_above (above : place ≤ bar.top) :
    bar.volumeAt headroom .vertical place = headroom.maxVolume := by
  refine volumeAt_of_fraction_one ?_
  show 1 - passed bar.top bar.height place = 1
  rw [passed_of_le high above, sub_zero]

theorem volumeAt_of_below (below : bar.top + bar.height ≤ place) :
    bar.volumeAt headroom .vertical place = 0 := by
  refine volumeAt_of_fraction_zero ?_
  show 1 - passed bar.top bar.height place = 0
  rw [passed_of_ge high below, sub_self]

end Vertical

/-- The scale stays within the listener's range. -/
theorem volumeAt_mem : bar.volumeAt headroom axis place ∈ Set.Icc (0 : K) headroom.maxVolume := by
  obtain ⟨nonneg, le⟩ : bar.fractionAt axis place ∈ Set.Icc (0 : K) 1 := fractionAt_mem
  have loudest := headroom.maxVolume_pos (K := K)
  constructor
  · rw [← headroom.snap_zero]
    exact headroom.snap_mono (mul_nonneg nonneg loudest.le)
  · conv_rhs => rw [← headroom.snap_maxVolume]
    exact headroom.snap_mono (mul_le_of_le_one_left loudest.le le)

end Bar

namespace Player

variable {T G S F : Type} [GainStage K G] [PreferenceStore S] [GainStage.Faithful G]

/-- The listener hears of the volume that the bar shows at the pointer. -/
theorem volume_dragVolume {headroom : Headroom} {player : Player K T G S F}
    (inBooks : InBooks headroom player.volume) (bar : Bar K) (x y : K) :
    (player.dragVolume bar x y).volume.volume =
      bar.volumeAt headroom player.volumeBar (player.volumeBar.coordinate x y) := by
  obtain ⟨rfl, ledger, follows⟩ := inBooks
  have picked := follows.act (.fraction (bar.along player.volumeBar x y))
  obtain ⟨nonneg, le⟩ : bar.volumeAt player.volume.headroom player.volumeBar
    (player.volumeBar.coordinate x y) ∈ Set.Icc (0 : K) _ := Bar.volumeAt_mem
  refine picked.volume_eq.trans ?_
  show max 0 (min player.volume.headroom.maxVolume
    (Ledger.picked player.volume.headroom (bar.along player.volumeBar x y))) = _
  rw [Bar.along_eq, Bar.picked_fractionAt, min_eq_right le, max_eq_right nonneg]

variable [Transport K T] [FrameSource F]

/-! ### Reaching a drag -/

/-- The volume of the player is in the books, and its volume bar fills in a given direction. -/
structure Tuned (headroom : Headroom) (axis : BarAxis) (player : Player K T G S F) : Prop where
  inBooks : InBooks headroom player.volume
  volumeBar : player.volumeBar = axis

omit [GainStage.Faithful G] [Transport K T] in
theorem volumeBar_sound_take (sound : Sound K G S) (input : Input K T) :
    (sound.take input).volumeBar = sound.volumeBar := by
  cases input with
  | command command =>
    cases command with
    | move x y =>
      show (sound.move x y).volumeBar = sound.volumeBar
      unfold Sound.move
      split <;> rfl
    | _ => rfl
  | _ => rfl

variable {headroom : Headroom} {axis : BarAxis}

theorem Tuned.exchange {player : Player K T G S F} (tuned : Tuned headroom axis player)
    (exchange : Exchange K T) : Tuned headroom axis (player.exchange exchange) := by
  cases exchange with
  | input input =>
    constructor
    · exact (reactions_take player input).keepSound (fun volume _ => InBooks headroom volume)
        InBooks.sounding tuned.inBooks
    · show (player.take input).sound.volumeBar = axis
      rw [sound_take, volumeBar_sound_take]
      exact tuned.volumeBar
  | handOver => exact ⟨tuned.inBooks, tuned.volumeBar⟩

theorem Tuned.exchangeAll {player : Player K T G S F} (tuned : Tuned headroom axis player)
    (exchanges : List (Exchange K T)) : Tuned headroom axis (player.exchangeAll exchanges) := by
  induction exchanges generalizing player with
  | nil => exact tuned
  | cons exchange later inductionHypothesis => exact inductionHypothesis (tuned.exchange exchange)

/-! ### Dragging along the bar -/

/-- In exact arithmetic a move of the pointer along the volume bar sets the volume that the bar shows
there, whatever happened to the player before. To the right, or upwards, it gets no lower, from silence
at the one end of the bar to the loudest volume at the other. On an amplified output it is full volume
or some way off. -/
theorem volumeDrag_is_absolute {config : Config K} {transport : T} {output : G} {store : S}
    {frames : F} {player : Player K T G S F}
    (setUp : new config transport output store frames = .ok player)
    (exchanges : List (Exchange K T)) {bar : Bar K}
    (dragging : (player.exchangeAll exchanges).drag = some (.volume bar))
    (wide : 0 < bar.width) (high : 0 < bar.height) :
    let dragged := player.exchangeAll exchanges
    let headroom := GainStage.headroom output
    let volume (x y : K) := (dragged.pointerMove x y).snapshot.volume
    let loudest := dragged.snapshot.maxVolume
    (∀ x y, volume x y =
        bar.volumeAt headroom config.volumeBar (config.volumeBar.coordinate x y)) ∧
      (config.volumeBar = .horizontal → ∀ y, (Monotone fun x => volume x y) ∧
        (∀ x, x ≤ bar.left → volume x y = 0) ∧
        ∀ x, bar.left + bar.width ≤ x → volume x y = loudest) ∧
      (config.volumeBar = .vertical → ∀ x, (Antitone fun y => volume x y) ∧
        (∀ y, y ≤ bar.top → volume x y = loudest) ∧
        ∀ y, bar.top + bar.height ≤ y → volume x y = 0) ∧
      (headroom = .amplified → ∀ x y, volume x y = 1 ∨ 1 / 20 ≤ |volume x y - 1|) := by
  intro dragged headroom volume loudest
  have tuned : Tuned headroom config.volumeBar dragged :=
    Tuned.exchangeAll ⟨(isNew_of_new setUp).inBooks, volumeBar_of_new setUp⟩ exchanges
  have absolute (x y : K) : volume x y =
      bar.volumeAt headroom config.volumeBar (config.volumeBar.coordinate x y) := by
    have moved : dragged.pointerMove x y = dragged.dragVolume bar x y := by
      unfold pointerMove
      rw [dragging]
    show (dragged.pointerMove x y).volume.volume = _
    rw [moved, volume_dragVolume tuned.inBooks, tuned.volumeBar]
  have loudest_eq : loudest = headroom.maxVolume := by
    show dragged.volume.headroom.maxVolume = _
    rw [tuned.inBooks.headroom]
  refine ⟨absolute, fun horizontal y => ?_, fun vertical x => ?_, fun amplified x y => ?_⟩
  · rw [horizontal] at absolute
    simp only [absolute, loudest_eq]
    exact ⟨Bar.volumeAt_mono wide, fun _ => Bar.volumeAt_of_left wide,
      fun _ => Bar.volumeAt_of_right wide⟩
  · rw [vertical] at absolute
    simp only [absolute, loudest_eq]
    exact ⟨Bar.volumeAt_anti high, fun _ => Bar.volumeAt_of_above high,
      fun _ => Bar.volumeAt_of_below high⟩
  · rw [absolute, amplified]
    exact Headroom.snap_eq_one_or _

end Player

namespace OneTrack

open InMemory Player

/-- The listener goes to silence and switches evening out off while the volume bar is pressed. -/
def pressAndMute : List (Exchange ℚ (Deck ℚ)) :=
  [.input (.command (.volumeDown ⟨0, 0, 90, 10⟩ 30 0)), .handOver, .input (.command .toggleMute),
    .input (.command .toggleReplaygain)]

/-- A little over two thirds of the bar is full volume, and so is a little less. -/
theorem drag_around_full_volume :
    ∃ player, setUp (some (-2)) store = .ok player ∧
      let dragged := player.exchangeAll pressAndMute
      let volume (x y : ℚ) := (dragged.pointerMove x y).snapshot.volume
      dragged.snapshot.volume = 0 ∧ dragged.drag = some (.volume ⟨0, 0, 90, 10⟩) ∧
        volume 58 0 = 1 ∧ volume 62 0 = 1 ∧ volume 30 0 = 1 / 2 ∧
        (∀ y, (Monotone fun x => volume x y) ∧ (∀ x, x ≤ 0 → volume x y = 0) ∧
          ∀ x, 0 + 90 ≤ x → volume x y = 3 / 2) ∧
        ∀ x y, volume x y = 1 ∨ 1 / 20 ≤ |volume x y - 1| := by
  obtain ⟨player, made, checked⟩ := exists_of_any (setUp (some (-2)) store)
    (fun player =>
      let dragged := player.exchangeAll pressAndMute
      let volume (x y : ℚ) := (dragged.pointerMove x y).snapshot.volume
      decide (dragged.snapshot.volume = 0 ∧ dragged.drag = some (.volume ⟨0, 0, 90, 10⟩) ∧
        dragged.snapshot.maxVolume = 3 / 2 ∧
        volume 58 0 = 1 ∧ volume 62 0 = 1 ∧ volume 30 0 = 1 / 2)) (by decide +kernel)
  obtain ⟨silent, dragging, loudest, below, above, half⟩ := of_decide_eq_true checked
  obtain ⟨-, horizontal, -, apart⟩ :=
    volumeDrag_is_absolute made pressAndMute dragging (by norm_num) (by norm_num)
  have across := horizontal rfl
  simp only [loudest] at across
  exact ⟨player, made, silent, dragging, below, above, half, across, apart rfl⟩

end OneTrack

end ReleasePlayer
