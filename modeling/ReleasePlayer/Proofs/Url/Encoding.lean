/-
This file proves that percent encoding loses nothing. Where the percent sign itself is escaped, the
encoded text decodes byte by byte to the UTF-8 of the text, whatever else is escaped; the form
encoding decodes to it once its plus signs are read as spaces. What the encoded text is made of is
said too: signs that are not escaped, percent signs and digits in base sixteen.
-/

import ReleasePlayer.Proofs.Url.Form

namespace ReleasePlayer.Text

/-- A text without separators is one field. -/
theorem fields_of_none {separates : Char → Bool} {text : List Char}
    (none : ∀ c ∈ text, separates c = false) : fields separates text = [text] := by
  induction text with
  | nil => rfl
  | cons c rest inductionHypothesis =>
    unfold fields
    rw [none c List.mem_cons_self, inductionHypothesis fun other member =>
      none other (List.mem_cons_of_mem c member)]
    rfl

/-- Up to a sign that is not in a text there is the whole text. -/
theorem takeWhile_ne_append {sign : Char} {text : List Char} (none : sign ∉ text)
    (rest : List Char) : (text ++ sign :: rest).takeWhile (· != sign) = text := by
  have before (c : Char) (member : c ∈ text) : (c != sign) = true :=
    bne_iff_ne.mpr fun same => none (same ▸ member)
  rw [List.takeWhile_append_of_pos before, List.takeWhile_cons_of_neg (by simp),
    List.append_nil]

theorem dropWhile_ne_append {sign : Char} {text : List Char} (none : sign ∉ text)
    (rest : List Char) : (text ++ sign :: rest).dropWhile (· != sign) = sign :: rest := by
  have before (c : Char) (member : c ∈ text) : (c != sign) = true :=
    bne_iff_ne.mpr fun same => none (same ▸ member)
  rw [List.dropWhile_append_of_pos before, List.dropWhile_cons_of_neg (by simp)]

/-- A text falls apart in one way at the first place of a sign. -/
theorem append_cons_inj {sign : Char} {one other rest more : List Char} (noneInOne : sign ∉ one)
    (noneInOther : sign ∉ other) (same : one ++ sign :: rest = other ++ sign :: more) :
    one = other ∧ rest = more := by
  have before := congrArg (List.takeWhile (· != sign)) same
  have behind := congrArg (List.dropWhile (· != sign)) same
  rw [takeWhile_ne_append noneInOne, takeWhile_ne_append noneInOther] at before
  rw [dropWhile_ne_append noneInOne, dropWhile_ne_append noneInOther] at behind
  exact ⟨before, (List.cons.inj behind).2⟩

end ReleasePlayer.Text

namespace ReleasePlayer.Percent

/-! ### Bytes -/

theorem hexValue?_digit : ∀ value < 16, Text.hexValue? (digit value) = some value := by decide

theorem decode_byte (value : UInt8) (rest : List Char) :
    decode (byte value ++ rest) = value :: decode rest := by
  have bound : value.toNat < 256 := value.toNat_lt
  have high := hexValue?_digit (value.toNat / 16) (by omega)
  have low := hexValue?_digit (value.toNat % 16) (by omega)
  have together : 16 * (value.toNat / 16) + value.toNat % 16 = value.toNat := by omega
  unfold byte
  rw [List.cons_append, List.cons_append, List.cons_append, List.nil_append, decode, high, low]
  dsimp only
  rw [together, UInt8.ofNat_toNat]

theorem decode_bytes (values : List UInt8) (rest : List Char) :
    decode (values.flatMap byte ++ rest) = values ++ decode rest := by
  induction values with
  | nil => rfl
  | cons value more inductionHypothesis =>
    rw [List.flatMap_cons, List.append_assoc, decode_byte, inductionHypothesis, List.cons_append]

theorem decode_cons_of_ne {c : Char} (other : c ≠ '%') (rest : List Char) :
    decode (c :: rest) = String.utf8EncodeChar c ++ decode rest := by
  rw [decode]
  rintro high low more rfl
  exact absurd rfl other

/-- The UTF-8 of a text reads as the text. -/
theorem text?_utf8 (text : String) :
    text? (text.toList.flatMap String.utf8EncodeChar) = some text := by
  have same : (⟨(text.toList.flatMap String.utf8EncodeChar).toArray⟩ : ByteArray) =
      text.toByteArray := by
    rw [← List.data_toByteArray]
    exact String.utf8Encode_toList
  unfold text? String.fromUTF8?
  rw [same, dif_pos text.isValidUTF8]
  rfl

/-! ### Texts -/

section Texts

variable {escapes : Char → Bool}

theorem decode_encodeChar (percent : escapes '%' = true) (c : Char) (rest : List Char) :
    decode (encodeChar escapes c ++ rest) = String.utf8EncodeChar c ++ decode rest := by
  unfold encodeChar
  split
  · exact decode_bytes _ rest
  · rename_i plain
    refine decode_cons_of_ne ?_ rest
    rintro rfl
    exact plain (by rw [percent, Bool.true_or])

theorem decode_encode (percent : escapes '%' = true) (text : List Char) :
    decode (encode escapes text) = text.flatMap String.utf8EncodeChar := by
  induction text with
  | nil => rfl
  | cons c rest inductionHypothesis =>
    unfold encode at inductionHypothesis ⊢
    rw [List.flatMap_cons, decode_encodeChar percent, inductionHypothesis, List.flatMap_cons]

/-- What is encoded with the percent sign escaped is read again. -/
theorem text?_decode_encode (percent : escapes '%' = true) (text : String) :
    text? (decode (encode escapes text.toList)) = some text := by
  rw [decode_encode percent, text?_utf8]

/-! ### What encoded texts are made of -/

/-- Whether a sign is not among those in which bytes are written. -/
def IsOutside (sign : Char) : Prop := sign ≠ '%' ∧ ∀ value < 16, digit value ≠ sign

instance (sign : Char) : Decidable (IsOutside sign) := inferInstanceAs (Decidable (_ ∧ _))

variable {sign : Char}

theorem not_mem_byte (outside : IsOutside sign) (value : UInt8) : sign ∉ byte value := by
  have bound : value.toNat < 256 := value.toNat_lt
  have high := outside.2 (value.toNat / 16) (by omega)
  have low := outside.2 (value.toNat % 16) (by omega)
  unfold byte
  simp only [List.mem_cons, List.not_mem_nil, or_false, not_or]
  exact ⟨outside.1, high.symm, low.symm⟩

theorem not_mem_bytes (outside : IsOutside sign) (values : List UInt8) :
    sign ∉ values.flatMap byte := by
  intro member
  obtain ⟨value, -, there⟩ := List.mem_flatMap.mp member
  exact not_mem_byte outside value there

/-- A sign that is escaped, and in which bytes are not written, is not there any more. -/
theorem not_mem_encode (outside : IsOutside sign) (escaped : escapes sign = true)
    (text : List Char) : sign ∉ encode escapes text := by
  intro member
  obtain ⟨c, -, there⟩ := List.mem_flatMap.mp member
  unfold encodeChar at there
  split at there
  · exact not_mem_bytes outside _ there
  · rename_i plain
    obtain rfl := List.mem_singleton.mp there
    exact plain (by rw [escaped, Bool.true_or])

end Texts

/-! ### Forms -/

/-- A plus sign as the space that it stands for. -/
def unplus (c : Char) : Char := if c = '+' then ' ' else c

theorem map_unplus_of_not_mem {text : List Char} (none : '+' ∉ text) : text.map unplus = text := by
  refine (List.map_congr_left fun c member => ?_).trans (List.map_id text)
  refine if_neg fun same : c = '+' => none ?_
  rw [← same]
  exact member

theorem decode_unplus_encodeFormChar (c : Char) (rest : List Char) :
    decode ((encodeFormChar c).map unplus ++ rest) = String.utf8EncodeChar c ++ decode rest := by
  unfold encodeFormChar
  split
  · rename_i space
    subst space
    exact decode_cons_of_ne (by decide) rest
  · split
    · rename_i plain
      have notPlus : c ≠ '+' := by
        rintro rfl
        exact absurd plain (by decide)
      rw [map_unplus_of_not_mem fun member => notPlus (List.mem_singleton.mp member).symm]
      refine decode_cons_of_ne ?_ rest
      rintro rfl
      exact absurd plain (by decide)
    · rw [map_unplus_of_not_mem (not_mem_bytes (by decide) _)]
      exact decode_bytes _ rest

/-- What is written in a form is read again. -/
theorem decodeForm?_encodeForm (text : String) :
    decodeForm? (encodeForm text.toList) = some text := by
  have decoded (chars : List Char) :
      decode ((encodeForm chars).map unplus) = chars.flatMap String.utf8EncodeChar := by
    induction chars with
    | nil => rfl
    | cons c rest inductionHypothesis =>
      unfold encodeForm at inductionHypothesis ⊢
      rw [List.flatMap_cons, List.map_append, decode_unplus_encodeFormChar, inductionHypothesis,
        List.flatMap_cons]
  show text? (decode ((encodeForm text.toList).map unplus)) = some text
  rw [decoded, text?_utf8]

/-- A sign that is not plain, and in which neither spaces nor bytes are written, is not there. -/
theorem not_mem_encodeForm {sign : Char} (outside : IsOutside sign) (notPlus : sign ≠ '+')
    (notPlain : isFormPlain sign = false) (text : List Char) : sign ∉ encodeForm text := by
  intro member
  obtain ⟨c, -, there⟩ := List.mem_flatMap.mp member
  unfold encodeFormChar at there
  split at there
  · exact notPlus (List.mem_singleton.mp there)
  · split at there
    · rename_i plain
      obtain rfl := List.mem_singleton.mp there
      rw [notPlain] at plain
      cases plain
    · exact not_mem_bytes outside _ there

/-! ### Queries -/

section Pair

variable (name value : String)

theorem fieldName_formPair :
    fieldName (formPair name.toList value.toList) = encodeForm name.toList := by
  have noEquals : '=' ∉ encodeForm name.toList :=
    not_mem_encodeForm (by decide) (by decide) (by decide) name.toList
  exact Text.takeWhile_ne_append noEquals _

theorem fieldValue_formPair :
    fieldValue (formPair name.toList value.toList) = encodeForm value.toList := by
  have noEquals : '=' ∉ encodeForm name.toList :=
    not_mem_encodeForm (by decide) (by decide) (by decide) name.toList
  unfold fieldValue formPair
  rw [Text.dropWhile_ne_append noEquals, List.drop_one, List.tail_cons]

/-- A sign that is neither plain nor written for others separates nothing within a pair. -/
theorem not_mem_formPair {sign : Char} (outside : IsOutside sign) (notPlus : sign ≠ '+')
    (notEquals : sign ≠ '=') (notPlain : isFormPlain sign = false) :
    sign ∉ formPair name.toList value.toList := by
  unfold formPair
  rw [List.mem_append, List.mem_cons, not_or, not_or]
  exact ⟨not_mem_encodeForm outside notPlus notPlain _, notEquals,
    not_mem_encodeForm outside notPlus notPlain _⟩

end Pair

/-- A query of one pair says that pair and nothing else. -/
theorem formPairs?_formPair (name value : String) :
    formPairs? (formPair name.toList value.toList) = some [(name, value)] := by
  have noJoin : '&' ∉ formPair name.toList value.toList :=
    not_mem_formPair name value (by decide) (by decide) (by decide) (by decide)
  have one : Text.fields (· == '&') (formPair name.toList value.toList) =
      [formPair name.toList value.toList] :=
    Text.fields_of_none fun c member => beq_false_of_ne fun same => noJoin (same ▸ member)
  have filled : (formPair name.toList value.toList).isEmpty = false := by
    unfold formPair
    cases encodeForm name.toList <;> rfl
  have pair : fieldPair? (formPair name.toList value.toList) = some (name, value) := by
    unfold fieldPair?
    rw [fieldName_formPair, fieldValue_formPair, decodeForm?_encodeForm, decodeForm?_encodeForm]
  unfold formPairs? Text.words
  rw [one, List.filter_cons_of_pos (by rw [filled]; rfl), List.filter_nil, List.mapM_cons, pair]
  rfl

end ReleasePlayer.Percent
