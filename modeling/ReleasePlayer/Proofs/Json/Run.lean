/-
This file says what the readers of tokens come to, one after the other. A reader that finds what it
expects leaves just what stands behind it; of one that fails only that is kept, since it may stop
anywhere and for many reasons.
-/

import ReleasePlayer.Json.Shape

namespace ReleasePlayer.Json.Reader

variable {β γ : Type}

/-- What a reader makes of a text: its outcome and the rest. -/
def outcome (reader : Reader β) (text : List Char) : Except Fault β × List Char :=
  reader.run text

/-- A reader gets a value from a text and leaves the rest, or fails if there is no value. -/
def Yields (reader : Reader β) (text : List Char) (value : Option β) (rest : List Char) : Prop :=
  match value with
  | some value => reader.outcome text = (.ok value, rest)
  | none => ∃ fault after, reader.outcome text = (.error fault, after)

variable {reader : Reader β} {text rest behind : List Char} {value : β}

/-! ### Readers one after the other -/

section Sequence

variable {next : β → Reader γ} {answer : Option γ}

theorem outcome_bind (reader : Reader β) (next : β → Reader γ) (text : List Char) :
    (reader >>= next).outcome text =
      ExceptT.bindCont next (reader.outcome text).1 (reader.outcome text).2 := rfl

theorem yields_pure (value : β) (text : List Char) :
    (pure value : Reader β).Yields text (some value) text := rfl

theorem Yields.bind (first : reader.Yields text (some value) rest)
    (second : (next value).Yields rest answer behind) :
    (reader >>= next).Yields text answer behind := by
  have passed : (reader >>= next).outcome text = (next value).outcome rest := by
    rw [outcome_bind, first]
    rfl
  unfold Yields at second ⊢
  rw [passed]
  exact second

theorem Yields.bind_none (failed : reader.Yields text none rest) :
    (reader >>= next).Yields text none behind := by
  obtain ⟨fault, after, failed⟩ := failed
  refine ⟨fault, after, ?_⟩
  rw [outcome_bind, failed]
  rfl

/-- What comes of two readers: nothing if there is nothing for the first. -/
theorem Yields.andThen {given : Option β} {answer : β → Option γ}
    (first : reader.Yields text given rest)
    (second : ∀ value, given = some value → (next value).Yields rest (answer value) behind) :
    (reader >>= next).Yields text (given.bind answer) behind := by
  cases given with
  | none => exact first.bind_none
  | some value => exact first.bind (second value rfl)

theorem outcome_bind_eq_ok {last : γ}
    (read : (reader >>= next).outcome text = (.ok last, rest)) :
    ∃ value middle, reader.outcome text = (.ok value, middle) ∧
      (next value).outcome middle = (.ok last, rest) := by
  rw [outcome_bind] at read
  rcases first : reader.outcome text with ⟨fault | value, middle⟩
  · rw [first] at read
    cases (Prod.mk.inj read).1
  · rw [first] at read
    exact ⟨value, middle, rfl, read⟩

theorem Yields.map {given : Option β} (read : reader.Yields text given rest) (f : β → γ) :
    (f <$> reader).Yields text (given.map f) rest := by
  cases given with
  | none => exact read.bind_none
  | some value => exact Yields.bind read (yields_pure (f value) rest)

end Sequence

/-! ### Readers whose failures are caught -/

section Caught

variable {handler : Fault → Reader β}

theorem outcome_tryCatch_ok (read : reader.outcome text = (.ok value, rest)) :
    (tryCatch reader handler : Reader β).outcome text = (.ok value, rest) := by
  replace read : reader text = (.ok value, rest) := read
  unfold outcome
  simp only [tryCatch, tryCatchThe, MonadExceptOf.tryCatch, ExceptT.tryCatch, ExceptT.run_mk, bind,
    StateT.bind]
  rw [read]
  rfl

theorem outcome_tryCatch_error {fault : Fault} (failed : reader.outcome text = (.error fault, rest)) :
    (tryCatch reader handler : Reader β).outcome text = (handler fault).outcome rest := by
  replace failed : reader text = (.error fault, rest) := failed
  unfold outcome
  simp only [tryCatch, tryCatchThe, MonadExceptOf.tryCatch, ExceptT.tryCatch, ExceptT.run_mk, bind,
    StateT.bind]
  rw [failed]
  rfl

/-- A failure that is given a place stays a failure. -/
theorem Yields.placed {given : Option β} (read : reader.Yields text given rest) :
    (placed reader).Yields text given rest := by
  cases given with
  | none =>
    obtain ⟨fault, after, failed⟩ := read
    unfold Reader.placed Yields
    rw [outcome_tryCatch_error failed]
    cases fault.left with
    | none => exact ⟨_, _, rfl⟩
    | some left => exact ⟨_, _, rfl⟩
  | some value => exact outcome_tryCatch_ok read

theorem attempt_ok (read : reader.outcome text = (.ok value, rest)) :
    (attempt reader).outcome text = (.ok (.ok value), rest) := by
  have read : reader.Yields text (some value) rest := read
  exact outcome_tryCatch_ok (read.map Except.ok)

theorem attempt_error {fault : Fault} (failed : reader.outcome text = (.error fault, rest)) :
    (attempt reader).outcome text = (.ok (.error fault), rest) := by
  have mapped : (Except.ok (ε := Fault) <$> reader).outcome text = (.error fault, rest) := by
    rw [map_eq_pure_bind, outcome_bind, failed]
    rfl
  exact outcome_tryCatch_error mapped

/-- An attempt does not fail. -/
theorem attempt_yields (reader : Reader β) (text : List Char) :
    ∃ answer rest, (attempt reader).Yields text (some answer) rest := by
  rcases read : reader.outcome text with ⟨fault | value, rest⟩
  · exact ⟨_, rest, attempt_error read⟩
  · exact ⟨_, rest, attempt_ok read⟩

end Caught

/-- What fails within brackets fails, whatever becomes of its end. -/
theorem Yields.enclosed {ending : Reader Unit} {given : Option β}
    (read : reader.Yields text given rest) (ended : ending.Yields rest (some ()) behind) :
    (enclosed reader ending).Yields text given behind := by
  cases given with
  | none =>
    obtain ⟨fault, after, failed⟩ := read
    obtain ⟨answer, further, ends⟩ := attempt_yields ending after
    have thrown : (throw fault : Reader β).Yields further none behind := ⟨fault, further, rfl⟩
    exact Yields.bind (attempt_error failed) (ends.bind thrown)
  | some value =>
    exact Yields.bind (attempt_ok read) (Yields.bind (attempt_ok ended) (yields_pure value behind))

/-! ### Tokens -/

theorem peek_cons {c : Char} (notBlank : isBlank c = false) (rest : List Char) :
    peek.Yields (c :: rest) (some (some c)) (c :: rest) := by
  show (Except.ok ((c :: rest).dropWhile isBlank).head?, (c :: rest).dropWhile isBlank) = _
  rw [List.dropWhile_cons_of_neg (by rw [notBlank]; exact Bool.false_ne_true)]
  rfl

theorem peekValue_cons {c : Char} (notBlank : isBlank c = false) (rest : List Char) :
    peekValue.Yields (c :: rest) (some c) (c :: rest) :=
  (peek_cons notBlank rest).bind (yields_pure c _)

theorem eat_cons (c : Char) (rest : List Char) : eat.Yields (c :: rest) (some ()) rest := rfl

/-- What is read behind a character that is taken. -/
theorem Yields.eat {given : Option β} (read : reader.Yields text given rest) (c : Char) :
    (Reader.eat *> reader).Yields (c :: text) given rest := by
  cases given with
  | none => exact read
  | some value => exact read

theorem bound_yields (text : List Char) : bound.Yields text (some (text.length + 1)) text := rfl

theorem word_append (expected rest : List Char) :
    (word expected).Yields (expected ++ rest) (some ()) rest := by
  induction expected with
  | nil => rfl
  | cons c more inductionHypothesis =>
    have opened : (word (c :: more)).outcome (c :: (more ++ rest)) =
        (if c = c then Reader.eat *> word more else failNext .wordExpected).outcome
          (c :: (more ++ rest)) := rfl
    unfold Yields
    rw [List.cons_append, opened, if_pos rfl]
    exact inductionHypothesis.eat c

/-! ### Lists and objects -/

theorem hasItem_first {c : Char} (notBlank : isBlank c = false) (notEnd : c ≠ ']')
    (rest : List Char) : (hasItem true).Yields (c :: rest) (some true) (c :: rest) := by
  refine (peek_cons notBlank rest).bind ?_
  show (if c = ']' then pure false else pure true : Reader Bool).Yields _ _ _
  rw [if_neg notEnd]
  exact yields_pure true _

theorem hasItem_next {c : Char} (notBlank : isBlank c = false) (notEnd : c ≠ ']')
    (rest : List Char) : (hasItem false).Yields (',' :: c :: rest) (some true) (c :: rest) := by
  refine (peek_cons rfl (c :: rest)).bind (Yields.eat ?_ ',')
  refine (peek_cons notBlank rest).bind ?_
  split
  · rename_i ends
    exact absurd (Option.some.inj ends) notEnd
  · exact yields_pure true _
  · rename_i ends
    cases ends

theorem hasItem_end (isFirst : Bool) (rest : List Char) :
    (hasItem isFirst).Yields (']' :: rest) (some false) (']' :: rest) :=
  (peek_cons rfl rest).bind (yields_pure false _)

theorem hasKey_first (rest : List Char) :
    (hasKey true).Yields ('"' :: rest) (some true) rest :=
  (peek_cons rfl rest).bind ((yields_pure true rest).eat '"')

theorem hasKey_next (rest : List Char) :
    (hasKey false).Yields (',' :: '"' :: rest) (some true) rest := by
  refine (peek_cons rfl ('"' :: rest)).bind (Yields.eat ?_ ',')
  exact (peek_cons rfl rest).bind ((yields_pure true rest).eat '"')

theorem hasKey_end (isFirst : Bool) (rest : List Char) :
    (hasKey isFirst).Yields ('\x7d' :: rest) (some false) ('\x7d' :: rest) :=
  (peek_cons rfl rest).bind (yields_pure false _)

theorem colon_cons (rest : List Char) : colon.Yields (':' :: rest) (some ()) rest :=
  (peek_cons rfl rest).bind (eat_cons ':' rest)

theorem listEnd_cons (rest : List Char) : listEnd.Yields (']' :: rest) (some ()) rest :=
  (peek_cons rfl rest).bind (eat_cons ']' rest)

theorem objectEnd_cons (rest : List Char) : objectEnd.Yields ('\x7d' :: rest) (some ()) rest :=
  (peek_cons rfl rest).bind (eat_cons '\x7d' rest)

theorem documentEnd_nil : documentEnd.Yields [] (some ()) [] := rfl

/-- One level deeper, as long as that is not the last one. -/
theorem Yields.deeper {depth : Nat} {body : Nat → Reader β} {given : Option β} (below : 1 < depth)
    (read : (body (depth - 1)).Yields text given rest) (c : Char) :
    (deeper depth body).Yields (c :: text) given rest := by
  obtain ⟨inner, rfl⟩ : ∃ inner, depth = inner + 1 := ⟨depth - 1, by omega⟩
  unfold Reader.deeper
  dsimp only
  rw [if_neg (by omega)]
  exact read.eat c

/-- What does not have the type expected is refused, whatever it is. -/
theorem mismatch_yields (first : Char) (expected : String) (text : List Char) :
    (mismatch first expected : Reader β).Yields text none rest := by
  refine Yields.placed ?_
  split
  · exact ⟨_, _, rfl⟩
  · split
    · exact ⟨_, _, rfl⟩
    · rcases read : (scalar first).outcome text with ⟨fault | value, after⟩
      · have failed : (scalar first).Yields text none after := ⟨fault, after, read⟩
        exact failed.bind_none
      · have read : (scalar first).Yields text (some value) after := read
        exact read.bind ⟨_, _, rfl⟩

end ReleasePlayer.Json.Reader

namespace ReleasePlayer.Json.Shape

open Reader

/-! ### Whole documents -/

section Documents

variable {β : Type} {shape : Shape} {take : Value → Option β} {text : String} {taken : β}

/-- A value and the end of the document behind it. -/
def wholeDocument (shape : Shape) : Reader Value := do
  let value ← shape.fromText depthLimit
  documentEnd
  return value

theorem read_eq (shape : Shape) (text : String) :
    shape.read text =
      ((wholeDocument shape).outcome text.toList).1.mapError (Fault.toProblem text.toList) := by
  unfold read
  dsimp only
  show _ = ((wholeDocument shape).run text.toList).1.mapError (Fault.toProblem text.toList)
  unfold wholeDocument
  split <;> rename_i outcome <;> rw [outcome] <;> rfl

/-- A value that fills a document is what the document says. -/
theorem readAs_of_yields {value : Value}
    (read : (shape.fromText depthLimit).Yields text.toList (some value) [])
    (takes : take value = some taken) : shape.readAs take text = .ok taken := by
  have whole : (wholeDocument shape).Yields text.toList (some value) [] :=
    read.bind (Yields.bind documentEnd_nil (yields_pure value []))
  unfold readAs
  rw [read_eq, whole]
  dsimp only [Except.mapError]
  rw [takes]

theorem readAs_of_none {rest : List Char}
    (failed : (shape.fromText depthLimit).Yields text.toList none rest) :
    ∃ problem, shape.readAs take text = .error problem := by
  have whole : (wholeDocument shape).Yields text.toList none rest := failed.bind_none
  obtain ⟨fault, after, whole⟩ := whole
  refine ⟨fault.toProblem text.toList, ?_⟩
  unfold readAs
  rw [read_eq, whole]
  rfl

/-- What a document says was read from it, up to its end. -/
theorem exists_of_readAs (read : shape.readAs take text = .ok taken) :
    ∃ value rest after, (shape.fromText depthLimit).outcome text.toList = (.ok value, rest) ∧
      documentEnd.outcome rest = (.ok (), after) ∧ take value = some taken := by
  unfold readAs at read
  rw [read_eq] at read
  rcases whole : (wholeDocument shape).outcome text.toList with ⟨fault | value, after⟩
  · rw [whole] at read
    cases read
  · rw [whole] at read
    dsimp only [Except.mapError] at read
    obtain ⟨other, rest, readValue, readEnd⟩ := outcome_bind_eq_ok whole
    obtain ⟨_, final, ended, same⟩ := outcome_bind_eq_ok readEnd
    obtain rfl := Except.ok.inj (Prod.mk.inj same).1
    cases takes : take other with
    | none =>
      rw [takes] at read
      cases read
    | some answer =>
      rw [takes] at read
      obtain rfl := Except.ok.inj read
      exact ⟨other, rest, final, readValue, ended, takes⟩

end Documents

end ReleasePlayer.Json.Shape
