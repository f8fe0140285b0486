/-
This file proves that the plain text of a double is read as that double. The text is made of the fewest
digits of the double, with the point moved to its place; the reader puts the same digits together again,
zeros that hold the place of the point included. That these digits are turned into the double they were
taken from was proved for the digits alone, so it is left to follow the signs and the three ways a point
can stand.
-/

import ReleasePlayer.Proofs.Double.Digits
import ReleasePlayer.Scalar.Double

namespace ReleasePlayer

namespace Decimal

/-! ### Counts and their digits -/

theorem accumulate_eq (start : Nat) (digits : List Char) :
    accumulate start digits = Nat.ofDigitChars 10 digits start := rfl

theorem accumulate_digitText (count : Nat) : accumulate 0 (digitText count) = count :=
  Nat.ofDigitChars_ten_toDigits

theorem isDigit_digitText (count : Nat) : ∀ c ∈ digitText count, c.isDigit = true :=
  fun _ member => Nat.isDigit_of_mem_toDigits (by decide) (by decide) member

theorem isDigit_zeros (count : Nat) : ∀ c ∈ List.replicate count '0', c.isDigit = true := by
  intro c member
  rw [List.eq_of_mem_replicate member]
  rfl

theorem accumulate_append_zeros (digits : List Char) (count : Nat) :
    accumulate 0 (digits ++ List.replicate count '0') = accumulate 0 digits * 10 ^ count := by
  rw [accumulate_eq, Nat.ofDigitChars_append, Nat.ofDigitChars_replicate_zero, Nat.mul_comm,
    accumulate_eq]

theorem accumulate_zeros_append (digits : List Char) (count : Nat) :
    accumulate 0 (List.replicate count '0' ++ digits) = accumulate 0 digits := by
  rw [accumulate_eq, Nat.ofDigitChars_append, Nat.ofDigitChars_replicate_zero, Nat.mul_zero,
    accumulate_eq]

/-! ### Reading the point -/

variable {whole places : List Char}

theorem readUnsigned_whole (nonempty : whole ≠ []) (digits : ∀ c ∈ whole, c.isDigit = true) :
    readUnsigned whole = some (accumulate 0 whole, 0) := by
  have all := List.takeWhile_eq_self_iff.mpr digits
  have none := List.dropWhile_eq_nil_iff.mpr digits
  have notEmpty : whole.isEmpty = false := List.isEmpty_eq_false_iff.mpr nonempty
  unfold readUnsigned
  simp [all, none, notEmpty]

theorem readUnsigned_point (nonempty : whole ≠ []) (digits : ∀ c ∈ whole, c.isDigit = true)
    (digits' : ∀ c ∈ places, c.isDigit = true) :
    readUnsigned (whole ++ '.' :: places) =
      some (accumulate 0 (whole ++ places), -(places.length : Int)) := by
  have all : (whole ++ '.' :: places).takeWhile Char.isDigit = whole := by
    rw [List.takeWhile_append_of_pos digits, List.takeWhile_cons_of_neg (by decide), List.append_nil]
  have rest : (whole ++ '.' :: places).dropWhile Char.isDigit = '.' :: places := by
    rw [List.dropWhile_append_of_pos digits, List.dropWhile_cons_of_neg (by decide)]
  have all' := List.takeWhile_eq_self_iff.mpr digits'
  have none := List.dropWhile_eq_nil_iff.mpr digits'
  have notEmpty : whole.isEmpty = false := List.isEmpty_eq_false_iff.mpr nonempty
  unfold readUnsigned
  simp [all, rest, all', none, notEmpty]

/-- Wherever the point stands, the same number is read. -/
theorem readUnsigned_positional (count : Nat) (exponent : Int) :
    readUnsigned (positional .plain (digitText count) exponent) =
      some (count * 10 ^ exponent.toNat, min exponent 0) := by
  have digits := isDigit_digitText count
  have counted := accumulate_digitText count
  have notEmpty : digitText count ≠ [] := Nat.toDigits_ne_nil
  generalize digitText count = text at *
  unfold positional
  dsimp only
  split
  · rename_i whole
    have zeros := isDigit_zeros exponent.toNat
    rw [show Layout.plain.wholeSuffix = [] from rfl, List.append_nil,
      readUnsigned_whole (by simp [notEmpty]) (List.forall_mem_append.mpr ⟨digits, zeros⟩),
      accumulate_append_zeros, counted, Int.min_eq_right whole]
  · rename_i below
    have places : 10 ^ exponent.toNat = 1 := by
      rw [show exponent.toNat = 0 by omega, Nat.pow_zero]
    rw [places, Nat.mul_one, Int.min_eq_left (by omega)]
    split
    · rename_i inside
      rw [readUnsigned_point, List.take_append_drop, counted, List.length_drop]
      · congr 2
        omega
      · exact List.ne_nil_of_length_pos (by rw [List.length_take]; omega)
      · exact fun c member => digits c (List.mem_of_mem_take member)
      · exact fun c member => digits c (List.mem_of_mem_drop member)
    · rename_i outside
      have zeros := isDigit_zeros ((-exponent).toNat - text.length)
      rw [show ('0' :: '.' :: (List.replicate ((-exponent).toNat - text.length) '0' ++ text)) =
          List.replicate 1 '0' ++ '.' ::
            (List.replicate ((-exponent).toNat - text.length) '0' ++ text) from rfl,
        readUnsigned_point (by simp) (isDigit_zeros 1) (List.forall_mem_append.mpr ⟨zeros, digits⟩),
        accumulate_zeros_append, accumulate_zeros_append, counted, List.length_append,
        List.length_replicate]
      congr 2
      omega

/-- The text starts with a digit, so it is not taken for a sign or a name. -/
theorem positional_head (count : Nat) (exponent : Int) :
    ∃ c rest, c.isDigit = true ∧ positional .plain (digitText count) exponent = c :: rest := by
  have digits := isDigit_digitText count
  have notEmpty : digitText count ≠ [] := Nat.toDigits_ne_nil
  generalize digitText count = text at *
  obtain ⟨c, rest, rfl⟩ := List.exists_cons_of_ne_nil notEmpty
  have digit := digits c List.mem_cons_self
  unfold positional
  dsimp only
  split
  · exact ⟨c, _, digit, rfl⟩
  · split
    · rename_i inside
      obtain ⟨before, counted⟩ : ∃ before, (c :: rest).length - (-exponent).toNat = before + 1 :=
        ⟨(c :: rest).length - (-exponent).toNat - 1, by omega⟩
      rw [counted]
      exact ⟨c, _, digit, rfl⟩
    · exact ⟨'0', _, rfl, rfl⟩

end Decimal

namespace Double

open Float.Model Float.Model.UnpackedFloat

/-! ### Signs -/

theorem repacked_of_amounts {sign : Sign} {amount : Nat} {x : UnpackedFloat}
    (amounts : Amounts sign amount x) : repacked x = x := by
  cases x with
  | notANumber => exact repacked_notANumber
  | infinity => exact repacked_infinity _
  | zero => exact repacked_zero _
  | finite _ mantissa exponent positive =>
    obtain ⟨-, canonical, fits, -⟩ := amounts
    unfold repacked
    rw [unpack_pack_of_canonical canonical, if_pos fits]

theorem Amounts.neg {sign : Sign} {amount : Nat} {x : UnpackedFloat}
    (amounts : Amounts sign amount x) : Amounts (-sign) amount (UnpackedFloat.neg x) := by
  cases x with
  | notANumber => exact amounts
  | infinity => exact ⟨congrArg _ amounts.1, amounts.2⟩
  | zero => exact ⟨congrArg _ amounts.1, amounts.2⟩
  | finite => exact ⟨congrArg _ amounts.1, amounts.2⟩

theorem amounts_neg {sign : Sign} {amount : Nat} {x : Float}
    (amounts : Amounts sign amount x.toModel.unpack) :
    Amounts (-sign) amount (-x).toModel.unpack := by
  show Amounts _ _ (repacked (UnpackedFloat.neg x.toModel.unpack))
  rw [repacked_of_amounts amounts.neg]
  exact amounts.neg

theorem amounts_zero : Amounts .positive 0 (0.0 : Float).toModel.unpack := by
  rw [show (0.0 : Float).toModel.unpack = .zero .positive from rfl]
  exact ⟨rfl, rfl⟩

/-! ### Reading a text back -/

/-- Moving zeros from the exponent to the digits changes nothing. -/
theorem Fits.whole {mantissa : Nat} {exponent : Int} {number : Decimal}
    (fits : Fits mantissa exponent number) :
    Fits mantissa exponent
      ⟨number.digits * 10 ^ number.exponent.toNat, min number.exponent 0⟩ := by
  refine fits.congr (Nat.mul_pos fits.positive (Nat.pow_pos (by decide))) ?_
  unfold numeratorOf denominatorOf
  dsimp only
  rw [show (min number.exponent 0).toNat = 0 by omega,
    show (-min number.exponent 0).toNat = (-number.exponent).toNat by omega, Nat.pow_zero, Nat.mul_one]

section Digit

variable {c : Char} {rest : List Char} (digit : c.isDigit = true)

include digit

/-- A digit is not taken for a sign. -/
theorem readSign_of_isDigit : Decimal.readSign (c :: rest) = (false, c :: rest) := by
  unfold Decimal.readSign
  split
  · rename_i same
    rw [(List.cons.inj same).1] at digit
    cases digit
  · rename_i same
    rw [(List.cons.inj same).1] at digit
    cases digit
  · rfl

/-- Nor does a name begin with one. -/
theorem map_toLower_ne {letter : Char} (more : List Char) (notDigit : letter.isDigit = false) :
    (c :: rest).map Char.toLower ≠ letter :: more := by
  intro same
  have small : c.toLower = c := by
    refine Char.toLower_eq_of_not_isUpper fun upper => ?_
    simp [Char.isDigit, Char.isUpper, UInt32.le_iff_toNat_le] at digit upper
    omega
  have first := (List.cons.inj same).1
  rw [small] at first
  rw [first, notDigit] at digit
  cases digit

/-- What is read of a sign and a text that starts with a digit. -/
theorem read_digits {sign : Sign} :
    read (String.ofList (signText sign ++ c :: rest)) =
      (Decimal.readUnsigned (c :: rest)).map fun (digits, exponent) =>
        match sign with
        | .positive => ofDecimal digits exponent
        | .negative => -ofDecimal digits exponent := by
  have signed : Decimal.readSign (signText sign ++ c :: rest) = match sign with
      | .positive => (false, c :: rest)
      | .negative => (true, c :: rest) := by
    cases sign
    · rfl
    · exact readSign_of_isDigit digit
  have notNan : (c :: rest).map Char.toLower ≠ "nan".toList := map_toLower_ne digit ['a', 'n'] rfl
  have notInf : ¬ ((c :: rest).map Char.toLower = "inf".toList ∨
      (c :: rest).map Char.toLower = "infinity".toList) := by
    rintro (same | same)
    · exact map_toLower_ne digit ['n', 'f'] rfl same
    · exact map_toLower_ne digit ['n', 'f', 'i', 'n', 'i', 't', 'y'] rfl same
  unfold read
  rw [String.toList_ofList, signed]
  cases sign <;>
  · dsimp only
    rw [if_neg notInf, if_neg notNan, Option.map_map]
    rfl

end Digit

/-- Every finite double is read from its plain text. -/
theorem read_text {x : Float} (finite : x.isFinite = true) : read (text x) = some x := by
  have finite : x.toModel.unpack.isFinite = true := finite
  unfold text write
  cases unpacked : x.toModel.unpack with
  | notANumber =>
    rw [unpacked] at finite
    cases finite
  | infinity =>
    rw [unpacked] at finite
    cases finite
  | zero sign =>
    dsimp only
    rw [read_digits rfl]
    refine congrArg some (eq_of_unpack ?_)
    rw [unpacked]
    have amounts : Amounts sign 0 (.zero sign) := ⟨rfl, rfl⟩
    cases sign with
    | positive => exact amounts_zero.unique amounts limit_pos
    | negative => exact (amounts_neg amounts_zero).unique amounts limit_pos
  | finite sign mantissa exponent positive =>
    obtain ⟨canonical, fits⟩ := canonical_of_unpack_eq unpacked
    have below := units_lt_limit canonical.small fits
    have shortest := fits_shortest .up positive canonical.least
    dsimp only
    show read (String.ofList (signText sign ++ Decimal.positional .plain (Decimal.digitText
      (Decimal.shortest .up mantissa exponent).digits)
      (Decimal.shortest .up mantissa exponent).exponent)) = some x
    generalize Decimal.shortest .up mantissa exponent = number at *
    have read := Decimal.readUnsigned_positional number.digits number.exponent
    obtain ⟨c, rest, digit, written⟩ := Decimal.positional_head number.digits number.exponent
    rw [written] at read ⊢
    rw [read_digits digit, read]
    refine congrArg some (eq_of_unpack ?_)
    have amounts := amounts_of_unpack unpacked
    have again := shortest.whole.amounts canonical positive below
    cases sign with
    | positive => exact again.unique amounts below
    | negative => exact (amounts_neg again).unique amounts below

end Double

end ReleasePlayer
