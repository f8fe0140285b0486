/-
This file proves that a number is read within a document as it is read on its own. A number is over
where no more of it can follow, and none of the signs that end a value is part of a number; so whatever
stands behind such a sign, the reader stops before it with the value that it got without.
-/

import ReleasePlayer.Proofs.Json.Run

namespace ReleasePlayer.Json

/-- What may stand behind a value: a sign that ends it, or nothing. -/
def Ends (behind : List Char) : Prop := ∀ c ∈ behind.head?, c = ',' ∨ c = ']' ∨ c = '\x7d'

theorem ends_nil : Ends [] := fun _ member => nomatch member

namespace Ends

variable {behind : List Char}

theorem head?_append (ends : Ends behind) {c : Char} (part : c ≠ ',' ∧ c ≠ ']' ∧ c ≠ '\x7d')
    (text : List Char) : (text ++ behind).head? = some c ↔ text.head? = some c := by
  cases text with
  | nil =>
    refine ⟨fun here => ?_, nofun⟩
    rcases ends c here with same | same | same
    · exact absurd same part.1
    · exact absurd same part.2.1
    · exact absurd same part.2.2
  | cons first more => exact Iff.rfl

theorem not_isDigit (ends : Ends behind) : ∀ c ∈ behind.head?, c.isDigit = false := by
  intro c here
  rcases ends c here with rfl | rfl | rfl <;> rfl

theorem takeWhile_append (ends : Ends behind) (text : List Char) :
    (text ++ behind).takeWhile Char.isDigit = text.takeWhile Char.isDigit := by
  induction text with
  | nil =>
    cases behind with
    | nil => rfl
    | cons c rest => exact List.takeWhile_cons_of_neg (by rw [ends.not_isDigit c rfl]; decide)
  | cons c rest inductionHypothesis =>
    rw [List.cons_append, List.takeWhile_cons, List.takeWhile_cons, inductionHypothesis]

theorem dropWhile_append (ends : Ends behind) (text : List Char) :
    (text ++ behind).dropWhile Char.isDigit = text.dropWhile Char.isDigit ++ behind := by
  induction text with
  | nil =>
    cases behind with
    | nil => rfl
    | cons c rest => exact List.dropWhile_cons_of_neg (by rw [ends.not_isDigit c rfl]; decide)
  | cons c rest inductionHypothesis =>
    rw [List.cons_append, List.dropWhile_cons, List.dropWhile_cons, inductionHypothesis]
    split <;> rfl

theorem headIsDigit_append (ends : Ends behind) (text : List Char) :
    ((text ++ behind).head?.map Char.isDigit).getD false =
      (text.head?.map Char.isDigit).getD false := by
  cases text with
  | nil =>
    cases behind with
    | nil => rfl
    | cons c rest => exact ends.not_isDigit c rfl
  | cons c rest => rfl

end Ends

namespace Reader

variable {β γ : Type} {text rest behind : List Char}

/-! ### Readers that do not look behind -/

/-- What one reader gets from a text, leaving the end of it, the other gets from the text with more
behind it, leaving that too. -/
def Carries (reader extended : Reader β) (text behind : List Char) : Prop :=
  ∀ value rest, reader.outcome text = (.ok value, rest) →
    rest <:+ text ∧ extended.outcome (text ++ behind) = (.ok value, rest ++ behind)

section Carries

variable {reader extended : Reader β} {next further : β → Reader γ}

theorem carries_pure (value : β) (text behind : List Char) :
    Carries (pure value) (pure value) text behind := by
  intro other rest read
  obtain ⟨same, rfl⟩ := Prod.mk.inj read
  obtain rfl := Except.ok.inj same
  exact ⟨List.suffix_rfl, rfl⟩

/-- A reader that fails carries anything. -/
theorem carries_of_error (failed : ∃ fault after, reader.outcome text = (.error fault, after)) :
    Carries reader extended text behind := by
  intro value other read
  obtain ⟨fault, after, failed⟩ := failed
  rw [failed] at read
  cases (Prod.mk.inj read).1

theorem Carries.bind (first : Carries reader extended text behind)
    (second : ∀ value rest, reader.outcome text = (.ok value, rest) →
      Carries (next value) (further value) rest behind) :
    Carries (reader >>= next) (extended >>= further) text behind := by
  intro answer rest read
  obtain ⟨value, middle, readFirst, readSecond⟩ := outcome_bind_eq_ok read
  obtain ⟨inText, firstExtended⟩ := first value middle readFirst
  obtain ⟨inMiddle, secondExtended⟩ := second value middle readFirst answer rest readSecond
  refine ⟨inMiddle.trans inText, ?_⟩
  rw [outcome_bind, firstExtended]
  exact secondExtended

/-- Looking at what is left. -/
theorem carries_get {next further : List Char → Reader γ}
    (carries : Carries (next text) (further (text ++ behind)) text behind) :
    Carries (get >>= next) (get >>= further) text behind := carries

/-- Going on behind a part of what is left. -/
theorem carries_set {after : List Char} {next further : Reader γ} (part : after <:+ text)
    (carries : Carries next further after behind) :
    Carries (set after >>= fun _ => next) (set (after ++ behind) >>= fun _ => further)
      text behind := by
  intro answer rest read
  obtain ⟨inAfter, extended⟩ := carries answer rest read
  exact ⟨inAfter.trans part, extended⟩

theorem carries_eat {c : Char} {next further : Reader γ}
    (carries : Carries next further text behind) :
    Carries (eat >>= fun _ => next) (eat >>= fun _ => further) (c :: text) behind := by
  intro answer rest read
  obtain ⟨within, extended⟩ := carries answer rest read
  exact ⟨within.trans (List.suffix_cons c text), extended⟩

theorem carries_ite {condition other : Prop} [Decidable condition] [Decidable other]
    {one two : Reader β} {one' two' : Reader β} (same : other ↔ condition)
    (holds : condition → Carries one one' text behind)
    (fails : ¬ condition → Carries two two' text behind) :
    Carries (if condition then one else two) (if other then one' else two') text behind := by
  by_cases true : condition
  · rw [if_pos true, if_pos (same.mpr true)]
    exact holds true
  · rw [if_neg true, if_neg fun there => true (same.mp there)]
    exact fails true

end Carries

/-! ### Numbers -/

section Numbers

variable (ends : Ends behind) (negative : Bool)

theorem carries_ofParts (count : Nat) (exponent : Int) (text behind : List Char) :
    Carries (ofParts negative count exponent) (ofParts negative count exponent) text behind := by
  unfold ofParts
  split
  · exact carries_pure _ text behind
  · exact carries_of_error ⟨_, _, rfl⟩

include ends in
theorem carries_exponentDigits (count : Nat) (start : Int) (falls : Bool) (text : List Char) :
    Carries (exponentDigits negative count start falls) (exponentDigits negative count start falls)
      text behind := by
  unfold exponentDigits
  refine carries_get ?_
  cases text with
  | nil => exact carries_of_error ⟨_, _, rfl⟩
  | cons c more =>
    refine carries_ite Iff.rfl (fun _ => carries_get (carries_get ?_))
      fun _ => carries_of_error ⟨_, _, rfl⟩
    have part : (c :: more).dropWhile Char.isDigit <:+ c :: more := List.dropWhile_suffix _
    rw [ends.takeWhile_append, ends.dropWhile_append]
    dsimp only
    rcases absorbExponent 0 ((c :: more).takeWhile Char.isDigit) with ⟨power, _ | ignored⟩
    · exact carries_set part (carries_ofParts negative count _ _ behind)
    · refine carries_ite Iff.rfl (fun _ => carries_of_error ⟨_, _, rfl⟩) fun _ => ?_
      exact carries_set part (carries_pure _ _ behind)

include ends in
theorem carries_exponentPart (count : Nat) (start : Int) (mark : Char) (text : List Char) :
    Carries (exponentPart negative count start) (exponentPart negative count start)
      (mark :: text) behind := by
  have digits (falls : Bool) (text : List Char) :=
    carries_exponentDigits ends negative count start falls text
  unfold exponentPart
  refine carries_eat (carries_get ?_)
  cases text with
  | nil => exact carries_of_error ⟨_, _, rfl⟩
  | cons c more =>
    rw [List.cons_append, List.head?_cons, List.head?_cons]
    split
    · rename_i plus
      cases plus
      exact carries_eat (digits false more)
    · rename_i minus
      cases minus
      exact carries_eat (digits true more)
    · exact digits false (c :: more)

include ends in
/-- Whether an exponent follows is seen without what stands behind. -/
theorem carries_atExponent {next further : Bool → Reader γ}
    (present : ∀ mark more, text = mark :: more → Carries (next true) (further true) text behind)
    (absent : Carries (next false) (further false) text behind) :
    Carries (atExponent >>= next) (atExponent >>= further) text behind := by
  have same (c : Char) (part : c ≠ ',' ∧ c ≠ ']' ∧ c ≠ '\x7d') :
      decide ((text ++ behind).head? = some c) = decide (text.head? = some c) :=
    decide_eq_decide.mpr (ends.head?_append part text)
  refine carries_get ?_
  show Carries (next _) (further (decide ((text ++ behind).head? = some 'e') ||
    decide ((text ++ behind).head? = some 'E'))) text behind
  rw [same 'e' (by decide), same 'E' (by decide)]
  cases text with
  | nil => exact absent
  | cons mark more =>
    cases decide ((mark :: more).head? = some 'e') || decide ((mark :: more).head? = some 'E') with
    | true => exact present mark more rfl
    | false => exact absent

include ends in
theorem carries_modify {next further : Reader γ}
    (carries : Carries next further (text.dropWhile Char.isDigit) behind) :
    Carries (modify (·.dropWhile Char.isDigit) >>= fun _ => next)
      (modify (·.dropWhile Char.isDigit) >>= fun _ => further) text behind := by
  intro answer rest read
  obtain ⟨within, extended⟩ := carries answer rest read
  refine ⟨within.trans (List.dropWhile_suffix _), ?_⟩
  rw [← ends.dropWhile_append] at extended
  exact extended

include ends in
theorem carries_placesPart (count : Nat) (start : Int) (text : List Char) :
    Carries (placesPart negative count start) (placesPart negative count start)
      ('.' :: text) behind := by
  unfold placesPart
  refine carries_eat (carries_get ?_)
  rw [ends.takeWhile_append]
  refine carries_ite Iff.rfl (fun _ => carries_of_error ?_) fun _ => ?_
  · cases text <;> exact ⟨_, _, rfl⟩
  · dsimp only
    rcases absorb count (text.takeWhile Char.isDigit) with ⟨total, ignored⟩
    refine carries_modify ends (carries_atExponent ends ?_ (carries_ofParts negative total _ _ behind))
    intro mark more exponent
    rw [exponent]
    exact carries_exponentPart ends negative total _ mark more

include ends in
theorem carries_fractionPart (count : Nat) (text : List Char) :
    Carries (fractionPart negative count) (fractionPart negative count) text behind := by
  have places (more : List Char) := carries_placesPart ends negative count 0 more
  unfold fractionPart
  refine carries_get (carries_ite (ends.head?_append (by decide) text) ?_ fun _ => ?_)
  · intro point
    obtain ⟨more, rfl⟩ := List.head?_eq_some_iff.mp point
    exact places more
  · refine carries_atExponent ends ?_ ?_
    · rintro mark more rfl
      exact carries_exponentPart ends negative count 0 mark more
    · rw [if_neg Bool.false_ne_true]
      refine carries_ite Iff.rfl (fun _ => carries_ite Iff.rfl (fun _ => ?_) fun _ => ?_) fun _ => ?_
      · exact carries_pure _ text behind
      · exact carries_pure _ text behind
      · exact carries_pure _ text behind

include ends in
/-- A number is read as it is read on its own. -/
theorem carries_number (text : List Char) :
    Carries (number negative) (number negative) text behind := by
  unfold number
  refine carries_get ?_
  cases text with
  | nil => exact carries_of_error ⟨_, _, rfl⟩
  | cons first more =>
    rw [List.cons_append]
    refine carries_ite Iff.rfl (fun _ => ?_) fun _ => carries_ite Iff.rfl (fun _ => ?_) fun _ => ?_
    · refine carries_set (List.suffix_cons _ more) (carries_ite ?_ (fun _ => ?_) fun _ => ?_)
      · rw [ends.headIsDigit_append]
      · exact carries_of_error ⟨_, _, rfl⟩
      · exact carries_fractionPart ends negative 0 more
    · have part : (first :: more).dropWhile Char.isDigit <:+ first :: more :=
        List.dropWhile_suffix _
      rw [← List.cons_append, ends.takeWhile_append, ends.dropWhile_append]
      dsimp only
      rcases absorb 0 ((first :: more).takeWhile Char.isDigit) with ⟨count, ignored⟩
      dsimp only
      refine carries_set part (carries_ite Iff.rfl (fun _ => ?_) fun _ => carries_get ?_)
      · exact carries_fractionPart ends negative count _
      · refine carries_ite (ends.head?_append (by decide) _) (fun point => ?_) fun _ => ?_
        · obtain ⟨places, same⟩ := List.head?_eq_some_iff.mp point
          rw [same]
          exact carries_placesPart ends negative count _ places
        · refine carries_atExponent ends (fun mark power same => ?_) ?_
          · rw [same]
            exact carries_exponentPart ends negative count _ mark power
          · exact carries_ofParts negative count _ _ behind
    · exact carries_of_error ⟨_, _, rfl⟩

end Numbers

theorem carries_peekValue {c : Char} (notBlank : isBlank c = false) (more behind : List Char) :
    Carries peekValue peekValue (c :: more) behind := by
  intro value rest read
  obtain ⟨same, rfl⟩ := Prod.mk.inj ((peekValue_cons notBlank more).symm.trans read)
  obtain rfl := Except.ok.inj same
  exact ⟨List.suffix_rfl, peekValue_cons notBlank (more ++ behind)⟩

theorem scalar_of_isDigit {first : Char} (digit : first.isDigit = true) :
    scalar first = number false := by
  have unlike {sign : Char} (notDigit : sign.isDigit = false) : first ≠ sign := by
    rintro rfl
    exact Bool.false_ne_true (notDigit.symm.trans digit)
  unfold scalar
  rw [if_neg (unlike rfl), if_neg (unlike rfl), if_neg (unlike rfl), if_neg (unlike rfl),
    if_pos digit]

theorem carries_scalar (ends : Ends behind) {first : Char}
    (numeric : first = '-' ∨ first.isDigit = true) (more : List Char) :
    Carries (scalar first) (scalar first) (first :: more) behind := by
  rcases numeric with rfl | digit
  · exact carries_eat (carries_number ends true more)
  · rw [scalar_of_isDigit digit]
    exact carries_number ends false (first :: more)

end Reader

namespace Shape

open Reader

variable {behind : List Char}

theorem carries_real (ends : Ends behind) (depth : Nat) {first : Char}
    (notBlank : isBlank first = false) (more : List Char) :
    Carries (real.fromText depth) (real.fromText depth) (first :: more) behind := by
  refine (carries_peekValue notBlank more behind).bind fun value rest read => ?_
  obtain ⟨same, rfl⟩ := Prod.mk.inj ((peekValue_cons notBlank more).symm.trans read)
  obtain rfl := Except.ok.inj same
  have refused : (mismatch first "f64" : Reader Value).Yields (first :: more) none [] :=
    mismatch_yields first "f64" (first :: more)
  refine carries_ite Iff.rfl (fun numeric => ?_) fun _ => carries_of_error refused
  refine (carries_scalar ends numeric more).bind fun value rest _ => ?_
  split <;> exact carries_pure _ rest behind

/-- What is left at the end of a document is blank. -/
theorem documentEnd_eq_nil {text rest : List Char} (noBlank : ∀ c ∈ text, isBlank c = false)
    (ended : documentEnd.outcome text = (.ok (), rest)) : text = [] := by
  cases text with
  | nil => rfl
  | cons c more =>
    have refused : documentEnd.Yields (c :: more) none [] :=
      (peek_cons (noBlank c List.mem_cons_self) more).bind ⟨_, _, rfl⟩
    obtain ⟨fault, after, failed⟩ := refused
    cases (Prod.mk.inj (failed.symm.trans ended)).1

/-- A number that is a document of its own is read as the same number within another one. -/
theorem real_yields {text : List Char} (noBlank : ∀ c ∈ text, isBlank c = false) {x : Float}
    (alone : real.readAs Value.real? (String.ofList text) = .ok x) (ends : Ends behind)
    (depth : Nat) : (real.fromText depth).Yields (text ++ behind) (some (.real x)) behind := by
  obtain ⟨value, rest, after, read, ended, takes⟩ := exists_of_readAs alone
  obtain rfl : value = .real x := by
    cases value <;> cases takes
    rfl
  rw [String.toList_ofList] at read
  cases text with
  | nil =>
    cases (Prod.mk.inj read).1
  | cons first more =>
    obtain ⟨part, carried⟩ := carries_real ends depth (noBlank first List.mem_cons_self) more _ _ read
    obtain rfl : rest = [] := documentEnd_eq_nil (fun c member => noBlank c (part.subset member)) ended
    exact carried

end Shape

end ReleasePlayer.Json
