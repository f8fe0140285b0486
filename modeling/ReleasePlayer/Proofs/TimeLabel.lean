/-
This file reads labels of times back. A label falls apart at its colons into fields of digits, and each
field counts sixty of the one behind it. What is read so is the whole seconds that the label was written
for, in either shape. A time and a longer one beside it get labels of the same shape, as they should on
a page that shows how much of a track has passed.
-/

import ReleasePlayer.TimeLabel

namespace ReleasePlayer

namespace Label

/-- The parts of a label between its colons. -/
def fields (label : String) : List (List Char) := label.toList.splitOn ':'

/-- The number that a field of digits stands for. -/
def fieldValue? (field : List Char) : Option Nat :=
  if field ≠ [] ∧ field.all Char.isDigit = true then some (Nat.ofDigitChars 10 field 0) else none

/-- The seconds that a label of numbers stands for. -/
def seconds? (label : String) : Option Nat :=
  ((fields label).mapM fieldValue?).map (·.foldl (fun total value => 60 * total + value) 0)

/-! ### Fields -/

theorem toList_toString (value : Nat) : (toString value).toList = Nat.toDigits 10 value := by
  rw [Nat.toString_eq_ofList_toDigits, String.toList_ofList]

/-- The digits of a field of at least two. -/
theorem toList_twoDigits (value : Nat) : (twoDigits value).toList =
    (if value < 10 then ['0'] else []) ++ Nat.toDigits 10 value := by
  unfold twoDigits
  rw [String.toList_append, toList_toString]
  split <;> rfl

theorem fieldValue?_of_isDigit {field : List Char} (digits : ∀ digit ∈ field, digit.isDigit = true)
    (notEmpty : field ≠ []) : fieldValue? field = some (Nat.ofDigitChars 10 field 0) := by
  unfold fieldValue?
  exact if_pos ⟨notEmpty, List.all_eq_true.mpr digits⟩

theorem isDigit_toString (value : Nat) :
    ∀ digit ∈ (toString value).toList, digit.isDigit = true := by
  rw [toList_toString]
  exact fun digit member => Nat.isDigit_of_mem_toDigits (by decide) (by decide) member

theorem isDigit_twoDigits (value : Nat) :
    ∀ digit ∈ (twoDigits value).toList, digit.isDigit = true := by
  rw [toList_twoDigits]
  intro digit member
  rcases List.mem_append.mp member with padding | ofValue
  · split at padding
    · obtain rfl := List.mem_singleton.mp padding
      rfl
    · cases padding
  · exact Nat.isDigit_of_mem_toDigits (by decide) (by decide) ofValue

theorem fieldValue?_toString (value : Nat) : fieldValue? (toString value).toList = some value := by
  have digits := isDigit_toString value
  rw [toList_toString] at digits ⊢
  rw [fieldValue?_of_isDigit digits (List.ne_nil_of_length_pos Nat.length_toDigits_pos),
    Nat.ofDigitChars_ten_toDigits]

/-- A zero in front does not count. -/
theorem fieldValue?_twoDigits (value : Nat) : fieldValue? (twoDigits value).toList = some value := by
  have digits := isDigit_twoDigits value
  rw [toList_twoDigits] at digits ⊢
  have notEmpty : (if value < 10 then ['0'] else []) ++ Nat.toDigits 10 value ≠ [] :=
    List.append_ne_nil_of_right_ne_nil _ (List.ne_nil_of_length_pos Nat.length_toDigits_pos)
  rw [fieldValue?_of_isDigit digits notEmpty]
  split
  · rw [List.singleton_append, Nat.ofDigitChars_cons]
    exact congrArg some Nat.ofDigitChars_ten_toDigits
  · rw [List.nil_append, Nat.ofDigitChars_ten_toDigits]

/-! ### Labels -/

/-- The fields that a label is made of. -/
def fieldsOf (withHours : Bool) (seconds : Nat) : List (List Char) :=
  if withHours then
    [(toString (seconds / 3600)).toList, (twoDigits (seconds / 60 % 60)).toList,
      (twoDigits (seconds % 60)).toList]
  else [(toString (seconds / 60)).toList, (twoDigits (seconds % 60)).toList]

theorem colon_not_mem_fieldsOf (withHours : Bool) (seconds : Nat) :
    ∀ field ∈ fieldsOf withHours seconds, ':' ∉ field := by
  have noColon {field : List Char} (digits : ∀ digit ∈ field, digit.isDigit = true) :
      ':' ∉ field := fun member => absurd (digits ':' member) (by decide)
  unfold fieldsOf
  intro field member
  split at member
  · simp only [List.mem_cons, List.not_mem_nil, or_false] at member
    rcases member with rfl | rfl | rfl
    · exact noColon (isDigit_toString _)
    · exact noColon (isDigit_twoDigits _)
    · exact noColon (isDigit_twoDigits _)
  · simp only [List.mem_cons, List.not_mem_nil, or_false] at member
    rcases member with rfl | rfl
    · exact noColon (isDigit_toString _)
    · exact noColon (isDigit_twoDigits _)

theorem fields_clockText (withHours : Bool) (seconds : Nat) :
    fields (clockText withHours seconds) = fieldsOf withHours seconds := by
  have joined : (clockText withHours seconds).toList =
      [':'].intercalate (fieldsOf withHours seconds) := by
    unfold clockText fieldsOf
    cases withHours <;> simp [String.toList_append, List.intercalate]
  unfold fields
  rw [joined]
  refine List.splitOn_intercalate ':' (colon_not_mem_fieldsOf withHours seconds) ?_
  unfold fieldsOf
  split <;> exact List.cons_ne_nil _ _

theorem length_fields_clockText (withHours : Bool) (seconds : Nat) :
    (fields (clockText withHours seconds)).length = if withHours then 3 else 2 := by
  rw [fields_clockText]
  cases withHours <;> rfl

/-- Whole seconds are read back from their label. -/
theorem seconds?_clockText (withHours : Bool) (seconds : Nat) :
    seconds? (clockText withHours seconds) = some seconds := by
  unfold seconds?
  rw [fields_clockText]
  unfold fieldsOf
  cases withHours with
  | true =>
    simp only [if_true, List.mapM_cons, List.mapM_nil, fieldValue?_toString,
      fieldValue?_twoDigits]
    show some (60 * (60 * (60 * 0 + seconds / 3600) + seconds / 60 % 60) + seconds % 60) =
      some seconds
    congr 1
    omega
  | false =>
    simp only [Bool.false_eq_true, if_false, List.mapM_cons, List.mapM_nil, fieldValue?_toString,
      fieldValue?_twoDigits]
    show some (60 * (60 * 0 + seconds / 60) + seconds % 60) = some seconds
    congr 1
    omega

section Times

variable {α : Type} [Scalar α]

/-- Whatever stands beside a time, its label stands for its own whole seconds. -/
theorem seconds?_timeLabel (time : α) (beside : Option α) :
    seconds? (timeLabel time beside) = some (wholeSeconds time) :=
  seconds?_clockText _ _

/-- A time has a label of the same shape as a time beside it that is not shorter. -/
theorem length_fields_timeLabel {elapsed total : α}
    (within : wholeSeconds elapsed ≤ wholeSeconds total) :
    (fields (timeLabel elapsed (some total))).length = (fields (timeLabel total none)).length := by
  have shape : (((some total).map wholeSeconds).filter (0 < ·)).getD (wholeSeconds elapsed) =
      wholeSeconds total := by
    rw [Option.map_some, Option.filter_some]
    split
    · rfl
    · rename_i none
      have zero : wholeSeconds total = 0 := by simpa using none
      show wholeSeconds elapsed = wholeSeconds total
      omega
  unfold timeLabel
  dsimp only
  rw [length_fields_clockText, length_fields_clockText, shape]
  rfl

end Times

end Label

end ReleasePlayer
