/-
This file proves that a text that is written is read again, whatever characters it is made of.
-/

import ReleasePlayer.Proofs.Json.Run
import ReleasePlayer.Proofs.Json.Writer

namespace ReleasePlayer.Json

open Reader

theorem hexUnit_digitChar : ∀ code < 0x20,
    hexUnit '0' '0' (Nat.digitChar (code / 16)) (Nat.digitChar (code % 16)) = some code := by
  decide

/-- A control character is read from its number. -/
theorem textBody_numbered {c : Char} (control : c.toNat < 0x20) (rest : List Char) :
    textBody (['\\', 'u', '0', '0', Nat.digitChar (c.toNat / 16), Nat.digitChar (c.toNat % 16)] ++
      rest) = (textBody rest).cons c := by
  show textBody ('\\' :: 'u' :: '0' :: '0' :: Nat.digitChar (c.toNat / 16) ::
    Nat.digitChar (c.toNat % 16) :: rest) = _
  rw [textBody, hexUnit_digitChar _ control]
  dsimp only
  rw [if_neg (by omega), if_neg (by omega), Char.ofNat_toNat]

/-- A character that needs no escape is read as it stands. -/
theorem textBody_plain {c : Char} (notQuote : c ≠ '"') (notEscape : c ≠ '\\')
    (notControl : ¬ c.toNat < 0x20) (rest : List Char) :
    textBody (c :: rest) = (textBody rest).cons c := by
  rw [textBody, if_neg notQuote, if_neg notControl] <;> grind

/-- An escaped character is read as the character. -/
theorem textBody_escaped (c : Char) (rest : List Char) :
    textBody (escaped c ++ rest) = (textBody rest).cons c := by
  unfold escaped
  split
  · rename_i special
    rcases special with rfl | rfl <;> rfl
  rename_i notSpecial
  split
  · subst c
    rfl
  split
  · subst c
    rfl
  split
  · subst c
    rfl
  split
  · subst c
    rfl
  split
  · subst c
    rfl
  split
  · rename_i control
    exact textBody_numbered control rest
  · rename_i notControl
    exact textBody_plain (fun same => notSpecial (Or.inl same))
      (fun same => notSpecial (Or.inr same)) notControl rest

theorem textBody_flatMap (chars rest : List Char) :
    textBody (chars.flatMap escaped ++ '"' :: rest) = (.ok chars, rest) := by
  induction chars with
  | nil => rfl
  | cons c more inductionHypothesis =>
    rw [List.flatMap_cons, List.append_assoc, textBody_escaped, inductionHypothesis]
    rfl

/-- A text is read from behind its opening quote. -/
theorem text_yields (text : String) (rest : List Char) :
    Reader.text.Yields (text.toList.flatMap escaped ++ '"' :: rest) (some text) rest := by
  have got : (get : Reader (List Char)).Yields (text.toList.flatMap escaped ++ '"' :: rest)
      (some (text.toList.flatMap escaped ++ '"' :: rest)) _ := rfl
  refine got.bind ?_
  rw [textBody_flatMap]
  show (Except.ok (String.ofList text.toList), rest) = (Except.ok text, rest)
  rw [String.ofList_toList]

end ReleasePlayer.Json
