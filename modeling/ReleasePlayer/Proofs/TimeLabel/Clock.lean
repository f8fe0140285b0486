/-
This file says what the label of a time looks like and what it shows. A label is a clock: behind its
leading field, which has no padding, stand one or two fields of two digits that count up to fifty-nine.
Read in base sixty it is the floor of the time, also where a short time beside it leaves no field for the
hours and the minutes count past sixty. A time within a length gets as many fields as the length does,
with one exception: a length that is infinite has no seconds to show, and so it is labelled like none at
all and leaves the label beside it to its own time.
-/

import ReleasePlayer.Proofs.Double.WholePart
import ReleasePlayer.Proofs.TimeLabel

namespace ReleasePlayer

namespace Label

/-! ### Clocks -/

/-- A number without padding: it starts with a zero only if there is nothing else to it. -/
def IsPlain (field : List Char) : Prop :=
  (∃ value, fieldValue? field = some value) ∧ (field.head? = some '0' → field = ['0'])

/-- Two digits that count up to fifty-nine. -/
def IsSixtieth (field : List Char) : Prop :=
  field.length = 2 ∧ ∃ value < 60, fieldValue? field = some value

/-- A label of the form `m:ss` or `h:mm:ss`. -/
def IsClock (label : String) : Prop :=
  ∃ leading later, fields label = leading :: later ∧ IsPlain leading ∧
    (later.length = 1 ∨ later.length = 2) ∧ ∀ field ∈ later, IsSixtieth field

/-- The digits of a number start with a zero only if the number is zero. -/
theorem eq_zero_of_head?_toDigits (value : Nat)
    (zero : (Nat.toDigits 10 value).head? = some '0') : value = 0 := by
  induction value using Nat.strongRecOn with
  | ind value inductionHypothesis =>
    by_cases small : value < 10
    · rw [Nat.toDigits_of_lt_base small, List.head?_singleton, Option.some.injEq] at zero
      have digits : ∀ digit < 10, Nat.digitChar digit = '0' → digit = 0 := by decide
      exact digits value small zero
    · have large : 10 ≤ value := Nat.le_of_not_lt small
      rw [Nat.toDigits_of_base_le (by decide) large,
        List.head?_append_of_ne_nil _ (List.ne_nil_of_length_pos Nat.length_toDigits_pos)] at zero
      have front := inductionHypothesis (value / 10) (by omega) zero
      omega

theorem isPlain_toString (value : Nat) : IsPlain (toString value).toList := by
  refine ⟨⟨value, fieldValue?_toString value⟩, fun zero => ?_⟩
  rw [toList_toString] at zero ⊢
  rw [eq_zero_of_head?_toDigits value zero]
  rfl

theorem isSixtieth_twoDigits {value : Nat} (small : value < 60) :
    IsSixtieth (twoDigits value).toList := by
  refine ⟨?_, value, small, fieldValue?_twoDigits value⟩
  rw [toList_twoDigits]
  split
  · rename_i single
    rw [Nat.toDigits_of_lt_base single]
    rfl
  · rename_i double
    rw [Nat.toDigits_of_base_le (by decide) (Nat.le_of_not_lt double),
      Nat.toDigits_of_lt_base (by omega)]
    rfl

theorem isClock_clockText (withHours : Bool) (seconds : Nat) :
    IsClock (clockText withHours seconds) := by
  have minutes := isSixtieth_twoDigits (Nat.mod_lt (seconds / 60) (by decide))
  have rest := isSixtieth_twoDigits (Nat.mod_lt seconds (by decide))
  unfold IsClock
  rw [fields_clockText]
  unfold fieldsOf
  cases withHours with
  | true =>
    refine ⟨_, _, rfl, isPlain_toString _, Or.inr rfl, ?_⟩
    simp only [List.mem_cons, List.not_mem_nil, or_false, forall_eq_or_imp, forall_eq]
    exact ⟨minutes, rest⟩
  | false =>
    refine ⟨_, _, rfl, isPlain_toString _, Or.inl rfl, ?_⟩
    simp only [List.mem_cons, List.not_mem_nil, or_false, forall_eq]
    exact rest

/-! ### What decides about hours -/

section Times

variable {α : Type} [Scalar α]

/-- The seconds that decide about hours: those of the time beside if it has any, and otherwise the
label's own. -/
def deciding (seconds : Nat) (beside : Option Nat) : Nat :=
  match beside with
  | some other => if 0 < other then other else seconds
  | none => seconds

theorem timeLabel_eq (time : α) (beside : Option α) :
    timeLabel time beside = clockText
      (decide (3600 ≤ deciding (wholeSeconds time) (beside.map wholeSeconds)))
      (wholeSeconds time) := by
  unfold timeLabel deciding
  cases beside with
  | none => rfl
  | some other =>
    dsimp only
    rw [Option.map_some, Option.filter_some]
    simp only [decide_eq_true_eq]
    split <;> rfl

theorem length_fields_eq_three_iff (time : α) (beside : Option α) :
    (fields (timeLabel time beside)).length = 3 ↔
      3600 ≤ deciding (wholeSeconds time) (beside.map wholeSeconds) := by
  rw [timeLabel_eq, length_fields_clockText]
  split
  · rename_i long
    exact ⟨fun _ => of_decide_eq_true long, fun _ => rfl⟩
  · rename_i short
    exact ⟨nofun, fun long => absurd (decide_eq_true long) short⟩

/-- Two labels have the same number of fields just if both have hours or neither has. -/
theorem length_fields_eq_iff (time other : α) (beside otherBeside : Option α) :
    (fields (timeLabel time beside)).length = (fields (timeLabel other otherBeside)).length ↔
      (3600 ≤ deciding (wholeSeconds time) (beside.map wholeSeconds) ↔
        3600 ≤ deciding (wholeSeconds other) (otherBeside.map wholeSeconds)) := by
  rw [timeLabel_eq, timeLabel_eq, length_fields_clockText, length_fields_clockText]
  simp only [decide_eq_true_eq]
  split <;> split <;> omega

end Times

/-! ### Labels of doubles -/

open Double (number wholePart wholePart_eq_floor)

/-- Cutting seconds off where they do not fit into 64 bits takes no hours away. -/
theorem hour_le_deciding_min (seconds : Nat) (beside : Option Nat) :
    3600 ≤ deciding (min seconds (1 <<< 64 - 1)) (beside.map (min · (1 <<< 64 - 1))) ↔
      3600 ≤ deciding seconds beside := by
  cases beside with
  | none =>
    unfold deciding
    dsimp only [Option.map_none]
    omega
  | some other =>
    unfold deciding
    dsimp only [Option.map_some]
    split <;> split <;> omega

theorem wholeSeconds_eq (time : Float) :
    wholeSeconds time = min ⌊max (number time) 0⌋₊ (1 <<< 64 - 1) :=
  congrArg (min · (1 <<< 64 - 1)) (wholePart_eq_floor time)

variable {time total : Float}

/-- A double that is not finite has no whole seconds. -/
theorem wholeSeconds_of_not_isFinite (nonneg : 0.0 ≤ total) (infinite : ¬ total.isFinite = true) :
    wholeSeconds total = 0 := by
  have found := Double.unpack_of_not_isFinite nonneg infinite
  have none : wholePart total = 0 := by
    unfold wholePart
    rw [found]
  exact (congrArg (min · (1 <<< 64 - 1)) none).trans (Nat.zero_min _)

/-- A time below two to the power of 64 has as many whole seconds as its floor. -/
theorem wholeSeconds_eq_floor (finite : time.isFinite = true)
    (small : time < 18446744073709551616.0) : wholeSeconds time = ⌊max (number time) 0⌋₊ := by
  rw [wholeSeconds_eq, ← wholePart_eq_floor]
  refine Nat.min_eq_left ?_
  by_cases nonneg : 0.0 ≤ time
  · have whole : number 18446744073709551616.0 = (18446744073709551616 : Nat) := by decide +kernel
    have below := (Double.wholePart_lt_iff nonneg finite (by decide +kernel) (by decide +kernel)
      whole).mpr small
    omega
  · rw [Double.wholePart_of_negative nonneg]
    exact Nat.zero_le _

theorem wholeSeconds_lt_hour_iff (nonneg : 0.0 ≤ time) (finite : time.isFinite = true) :
    wholeSeconds time < 3600 ↔ time < 3600.0 := by
  have whole : number 3600.0 = (3600 : Nat) := by decide +kernel
  rw [← Double.wholePart_lt_iff nonneg finite (by decide +kernel) (by decide +kernel) whole,
    wholeSeconds_eq, wholePart_eq_floor]
  omega

/-- A finite length gets as many fields as a time within it. -/
theorem length_fields_of_isFinite (nonneg : 0.0 ≤ time) (within : time ≤ total)
    (finite : total.isFinite = true) :
    (fields (timeLabel time (some total))).length = (fields (timeLabel total none)).length :=
  length_fields_timeLabel (min_le_min_right _ (Double.wholePart_mono nonneg within finite))

/-- A length that is infinite is labelled like none at all, so the label of a time beside it has as many
fields only if it has no hours of its own. -/
theorem length_fields_of_not_isFinite (nonneg : 0.0 ≤ time) (within : time ≤ total)
    (infinite : ¬ total.isFinite = true) (finite : time.isFinite = true) :
    (fields (timeLabel time (some total))).length = (fields (timeLabel total none)).length ↔
      time < 3600.0 := by
  have none := wholeSeconds_of_not_isFinite (Double.float_le_trans nonneg within) infinite
  rw [length_fields_eq_iff, ← wholeSeconds_lt_hour_iff nonneg finite, Option.map_some,
    Option.map_none, none]
  unfold deciding
  dsimp only
  rw [if_neg (Nat.lt_irrefl 0)]
  omega

/-- The label of a finite time below two to the power of 64 is a clock that shows the floor of the time,
and has hours just if the seconds that decide about them come to an hour; and a time within a length gets
as many fields as the length, unless the length is infinite and the time is not below an hour. -/
theorem timeLabel_shows_time (finite : time.isFinite = true)
    (small : time < 18446744073709551616.0) (beside : Option Float) :
    let label := timeLabel time beside
    IsClock label ∧
      seconds? label = some ⌊max (number time) 0⌋₊ ∧
      ((fields label).length = 3 ↔ 3600 ≤ deciding ⌊max (number time) 0⌋₊
        (beside.map fun other => ⌊max (number other) 0⌋₊)) ∧
      ∀ total, 0.0 ≤ time → time ≤ total →
        ((fields (timeLabel time (some total))).length = (fields (timeLabel total none)).length ↔
          total.isFinite = true ∨ time < 3600.0) := by
  intro label
  refine ⟨isClock_clockText _ _, ?_, ?_, fun total nonneg within => ?_⟩
  · rw [← wholeSeconds_eq_floor finite small]
    exact seconds?_timeLabel time beside
  · have cut : (wholeSeconds : Float → Nat) =
        (min · (1 <<< 64 - 1)) ∘ fun other => ⌊max (number other) 0⌋₊ := funext wholeSeconds_eq
    have hours := hour_le_deciding_min ⌊max (number time) 0⌋₊
      (beside.map fun other => ⌊max (number other) 0⌋₊)
    rw [Option.map_map, ← cut, ← wholeSeconds_eq] at hours
    exact (length_fields_eq_three_iff time beside).trans hours
  · by_cases bounded : total.isFinite = true
    · exact iff_of_true (length_fields_of_isFinite nonneg within bounded) (Or.inl bounded)
    · rw [length_fields_of_not_isFinite nonneg within bounded finite, or_iff_right bounded]

/-- Next to a minute, minutes go on to count when an hour has passed; next to two hours they do not. -/
theorem sixtySix_minutes_and_an_hour :
    let time : Float := 4000.5
    time.isFinite = true ∧ time < 18446744073709551616.0 ∧ 0.0 ≤ time ∧ time ≤ 7200.0 ∧
      timeLabel time (some 60.0) = "66:40" ∧ timeLabel time (some 7200.0) = "1:06:40" ∧
      IsClock (timeLabel time (some 60.0)) ∧
      seconds? (timeLabel time (some 60.0)) = some ⌊max (number time) 0⌋₊ ∧
      ((fields (timeLabel time (some 60.0))).length = 3 ↔
        3600 ≤ deciding ⌊max (number time) 0⌋₊ (some ⌊max (number 60.0) 0⌋₊)) ∧
      ((fields (timeLabel time (some 7200.0))).length =
        (fields (timeLabel (7200.0 : Float) none)).length ↔
          (7200.0 : Float).isFinite = true ∨ time < 3600.0) := by
  intro time
  have finite : time.isFinite = true := by decide +kernel
  have small : time < 18446744073709551616.0 := by decide +kernel
  have nonneg : 0.0 ≤ time := by decide +kernel
  have within : time ≤ 7200.0 := by decide +kernel
  obtain ⟨clock, shown, hours, beside⟩ := timeLabel_shows_time finite small (some 60.0)
  exact ⟨finite, small, nonneg, within, by decide +kernel, by decide +kernel, clock, shown, hours,
    beside 7200.0 nonneg within⟩

/-- An hour is within a length that is infinite, but its label has three fields and the one of the length
has two. -/
theorem hour_within_endless_length :
    let time : Float := 3600.0
    let total : Float := Double.infinity
    time.isFinite = true ∧ time < 18446744073709551616.0 ∧ 0.0 ≤ time ∧ time ≤ total ∧
      timeLabel time (some total) = "1:00:00" ∧ timeLabel total none = "0:00" ∧
      (fields (timeLabel time (some total))).length ≠ (fields (timeLabel total none)).length := by
  decide +kernel

end Label

end ReleasePlayer
