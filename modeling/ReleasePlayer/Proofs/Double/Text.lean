/-
This file proves that the text of a double has no blanks in it: it is made of digits and of a few signs
and letters. So nothing is lost when such a text is trimmed, and none of it ends before its end.
-/

import ReleasePlayer.Decimal.Layout
import ReleasePlayer.Text.Blank

namespace ReleasePlayer

namespace Text

/-- A character of ASCII that leaves a mark. -/
def IsVisible (c : Char) : Prop := 0x20 < c.toNat ∧ c.toNat < 0x7f

instance (c : Char) : Decidable (IsVisible c) := inferInstanceAs (Decidable (_ ∧ _))

theorem isVisible_of_all {text : List Char} (all : (text.all fun c => decide (IsVisible c)) = true) :
    ∀ c ∈ text, IsVisible c :=
  fun c member => of_decide_eq_true (List.all_eq_true.mp all c member)

theorem isVisible_of_isDigit {c : Char} (digit : c.isDigit = true) : IsVisible c := by
  have range : '0'.toNat ≤ c.toNat ∧ c.toNat ≤ '9'.toNat := by
    simpa [Char.isDigit, UInt32.le_iff_toNat_le] using digit
  have least : '0'.toNat = 48 := rfl
  have greatest : '9'.toNat = 57 := rfl
  unfold IsVisible
  omega

theorem not_isBlank_of_isVisible {c : Char} (visible : IsVisible c) : isBlank c = false := by
  unfold IsVisible at visible
  simp only [isBlank, Bool.or_eq_false_iff, Bool.and_eq_false_iff, decide_eq_false_iff_not]
  omega

theorem trim_of_isVisible {text : String} (visible : ∀ c ∈ text.toList, IsVisible c) :
    trim text = text := by
  have whole {chars : List Char} (visible : ∀ c ∈ chars, IsVisible c) :
      chars.dropWhile isBlank = chars := by
    cases chars with
    | nil => rfl
    | cons c rest =>
      have notBlank := not_isBlank_of_isVisible (visible c List.mem_cons_self)
      exact List.dropWhile_cons_of_neg (by rw [notBlank]; exact Bool.false_ne_true)
  have backwards : ∀ c ∈ text.toList.reverse, IsVisible c := fun c member =>
    visible c (List.mem_reverse.mp member)
  unfold trim trimWhere trimEndWhere
  rw [whole visible, whole backwards, List.reverse_reverse, String.ofList_toList]

theorem not_isBlankText_of_isVisible {text : String} (visible : ∀ c ∈ text.toList, IsVisible c)
    (notEmpty : text ≠ "") : isBlankText text = false := by
  unfold isBlankText
  cases chars : text.toList with
  | nil => exact absurd (String.toList_eq_nil_iff.mp chars) notEmpty
  | cons c rest =>
    have notBlank := not_isBlank_of_isVisible (visible c (by rw [chars]; exact List.mem_cons_self))
    rw [List.all_cons, notBlank, Bool.false_and]

end Text

namespace Decimal

open Text (IsVisible)

theorem isVisible_digitText (count : Nat) : ∀ c ∈ digitText count, IsVisible c :=
  fun _ member => Text.isVisible_of_isDigit (Nat.isDigit_of_mem_toDigits (by decide) (by decide) member)

variable {digits : List Char}

theorem isVisible_positional {layout : Layout} (whole : ∀ c ∈ layout.wholeSuffix, IsVisible c)
    (visible : ∀ c ∈ digits, IsVisible c) (exponent : Int) :
    ∀ c ∈ positional layout digits exponent, IsVisible c := by
  have zeros (count : Nat) : ∀ c ∈ List.replicate count '0', IsVisible c := by
    intro c member
    rw [List.eq_of_mem_replicate member]
    decide
  unfold positional
  dsimp only
  split
  · simp only [List.forall_mem_append]
    exact ⟨⟨visible, zeros _⟩, whole⟩
  · split
    · simp only [List.forall_mem_append, List.forall_mem_cons]
      exact ⟨fun c member => visible c (List.mem_of_mem_take member), by decide,
        fun c member => visible c (List.mem_of_mem_drop member)⟩
    · simp only [List.forall_mem_append, List.forall_mem_cons]
      exact ⟨by decide, by decide, zeros _, visible⟩

theorem isVisible_scientific (visible : ∀ c ∈ digits, IsVisible c) (exponent : Int) :
    ∀ c ∈ scientific digits exponent, IsVisible c := by
  have power (negative : Prop) [Decidable negative] (count : Nat) :
      ∀ c ∈ 'e' :: ((if negative then ['-'] else []) ++ digitText count), IsVisible c := by
    simp only [List.forall_mem_append, List.forall_mem_cons]
    refine ⟨by decide, ?_, isVisible_digitText count⟩
    split <;> exact Text.isVisible_of_all rfl
  unfold scientific
  dsimp only
  rw [List.forall_mem_append]
  refine ⟨?_, power _ _⟩
  split
  · nofun
  · exact visible
  · simp only [List.forall_mem_cons] at visible ⊢
    exact ⟨visible.1, by decide, visible.2⟩

theorem isVisible_write {layout : Layout} (whole : ∀ c ∈ layout.wholeSuffix, IsVisible c)
    (number : Decimal) : ∀ c ∈ write layout number, IsVisible c := by
  have digits := isVisible_digitText number.digits
  unfold write
  dsimp only
  split
  · exact isVisible_positional whole digits _
  · split
    · exact isVisible_positional whole digits _
    · exact isVisible_scientific digits _

end Decimal

namespace Double

open Text (IsVisible)

/-- All characters of the text of a double leave a mark. -/
theorem isVisible_write {layout : Decimal.Layout} (whole : ∀ c ∈ layout.wholeSuffix, IsVisible c)
    (x : Float) : ∀ c ∈ (write layout x).toList, IsVisible c := by
  have sign (sign : Float.Model.UnpackedFloat.Sign) : ∀ c ∈ signText sign, IsVisible c := by
    cases sign <;> exact Text.isVisible_of_all rfl
  unfold write
  rw [String.toList_ofList]
  split
  · exact Text.isVisible_of_all rfl
  · rw [List.forall_mem_append]
    exact ⟨sign _, Text.isVisible_of_all rfl⟩
  · rw [List.forall_mem_append, List.forall_mem_cons]
    exact ⟨sign _, by decide, whole⟩
  · rw [List.forall_mem_append]
    exact ⟨sign _, Decimal.isVisible_write whole _⟩

theorem isVisible_text (x : Float) : ∀ c ∈ (text x).toList, IsVisible c :=
  isVisible_write (Text.isVisible_of_all rfl) x

theorem isVisible_document (x : Float) : ∀ c ∈ (document x).toList, IsVisible c :=
  isVisible_write (Text.isVisible_of_all rfl) x

end Double

end ReleasePlayer
