/-
This file proves that no document says a number that is not finite. What a reader gets is bounded here by a
condition that holds of it whatever the text is: a condition on what a reader gets follows from conditions
on what its parts get, and a reader that fails meets every condition. A number is finite because a product
that is infinite is refused; all else is finite because its numbers are.
-/

import ReleasePlayer.Proofs.Double.Finite
import ReleasePlayer.Proofs.Json.Written

namespace ReleasePlayer.Json

/-! ### What readers get -/

namespace Reader

variable {β γ : Type} {reader : Reader β} {next : β → Reader γ} {value : β}
  {Holds Part : β → Prop} {Further : γ → Prop}

/-- What a reader gets satisfies a condition, whatever the text is. -/
def Gives (reader : Reader β) (Holds : β → Prop) : Prop :=
  ∀ text value rest, reader.outcome text = (.ok value, rest) → Holds value

theorem gives_pure (holds : Holds value) : (pure value : Reader β).Gives Holds := by
  intro text other rest read
  obtain rfl := Except.ok.inj (Prod.mk.inj read).1
  exact holds

/-- A reader that fails gets nothing, so nothing is asked of it. -/
theorem gives_throw (fault : Fault) : (throw fault : Reader β).Gives Holds := by
  intro text value rest read
  cases (Prod.mk.inj read).1

theorem Gives.mono (gives : reader.Gives Part) (weaker : ∀ value, Part value → Holds value) :
    reader.Gives Holds :=
  fun text value rest read => weaker value (gives text value rest read)

/-- What the second reader gets may depend on what the first one got, of which its condition is known.
-/
theorem Gives.bind (first : reader.Gives Part)
    (second : ∀ value, Part value → (next value).Gives Further) : (reader >>= next).Gives Further := by
  intro text last rest read
  obtain ⟨value, middle, readFirst, readSecond⟩ := outcome_bind_eq_ok read
  exact second value (first text value middle readFirst) middle last rest readSecond

/-- Where it does not matter what the first reader gets. -/
theorem gives_bind (second : ∀ value, (next value).Gives Further) : (reader >>= next).Gives Further := by
  have first : reader.Gives fun _ => True := fun _ _ _ _ => trivial
  exact first.bind fun value _ => second value

theorem gives_seqRight {second : Reader γ} (gives : second.Gives Further) :
    (reader *> second).Gives Further := by
  show (reader >>= fun _ => second).Gives Further
  exact gives_bind fun _ => gives

theorem Gives.map {f : β → γ} (gives : reader.Gives fun value => Further (f value)) :
    (f <$> reader).Gives Further := by
  rw [map_eq_pure_bind]
  exact gives.bind fun value holds => gives_pure holds

theorem gives_failHere (cause : Cause) : (failHere cause : Reader β).Gives Holds :=
  gives_bind fun _ => gives_throw _

theorem gives_failNext (cause : Cause) : (failNext cause : Reader β).Gives Holds :=
  gives_bind fun _ => gives_throw _

/-- Telling what was found in place of something else is a failure. -/
theorem gives_mismatch (first : Char) (expected : String) :
    (mismatch first expected : Reader β).Gives Holds := by
  intro text value rest read
  obtain ⟨fault, after, failed⟩ := @mismatch_yields β rest first expected text
  rw [failed] at read
  cases (Prod.mk.inj read).1

/-- A failure that is given a place stays a failure. -/
theorem Gives.placed (gives : reader.Gives Holds) : (placed reader).Gives Holds := by
  intro text value rest read
  rcases outcome : reader.outcome text with ⟨fault | other, after⟩
  · have failed : reader.Yields text none after := ⟨fault, after, outcome⟩
    obtain ⟨fault', after', failed⟩ : (Reader.placed reader).Yields text none after := failed.placed
    rw [failed] at read
    cases (Prod.mk.inj read).1
  · have found : reader.Yields text (some other) after := outcome
    have placed := found.placed.symm.trans read
    obtain rfl := Except.ok.inj (Prod.mk.inj placed).1
    exact gives text other after outcome

/-- An attempt gets an answer, and the condition holds of what a good one brings. -/
theorem Gives.attempt (gives : reader.Gives Holds) :
    (attempt reader).Gives fun answer => ∀ value, answer = .ok value → Holds value := by
  intro text answer rest read
  rcases outcome : reader.outcome text with ⟨fault | other, after⟩
  · have failed := (attempt_error outcome).symm.trans read
    obtain rfl := Except.ok.inj (Prod.mk.inj failed).1
    nofun
  · have found := (attempt_ok outcome).symm.trans read
    obtain rfl := Except.ok.inj (Prod.mk.inj found).1
    intro answered same
    obtain rfl := Except.ok.inj same
    exact gives text other after outcome

theorem Gives.enclosed (gives : reader.Gives Holds) (ending : Reader Unit) :
    (enclosed reader ending).Gives Holds := by
  refine gives.attempt.bind fun answer holds => gives_bind fun ended => ?_
  split
  · exact gives_pure (holds _ rfl)
  · exact gives_throw _
  · exact gives_throw _

theorem gives_deeper {body : Nat → Reader β} (gives : ∀ inner, (body inner).Gives Holds)
    (depth : Nat) : (deeper depth body).Gives Holds := by
  unfold deeper
  split
  · split
    · exact gives_failNext _
    · exact gives_seqRight (gives _)
  · exact gives_failNext _

/-- A condition on each item is one on all items of a list. -/
theorem Gives.items (gives : reader.Gives Holds) (count : Nat) (isFirst : Bool) :
    (items reader count isFirst).Gives fun values => ∀ value ∈ values, Holds value := by
  induction count generalizing isFirst with
  | zero => exact gives_pure nofun
  | succ more inductionHypothesis =>
    refine gives_bind fun goesOn => ?_
    split
    · refine gives.bind fun value holds => ?_
      refine (inductionHypothesis false).bind fun values others => ?_
      exact gives_pure (List.forall_mem_cons.mpr ⟨holds, others⟩)
    · exact gives_pure nofun

/-! ### Numbers -/

section Numbers

variable (negative : Bool)

theorem isFinite_ofSign {x : Float} (finite : x.isFinite = true) :
    (if negative then -x else x).isFinite = true := by
  split
  · exact Double.isFinite_neg finite
  · exact finite

/-- Dividing never leaves the finite numbers. -/
theorem isFinite_divideFar (steps : Nat) {x : Float} {exponent : Int} (finite : x.isFinite = true)
    (below : exponent ≤ 0) : (divideFar steps x exponent).isFinite = true := by
  induction steps generalizing x exponent with
  | zero =>
    show (0.0 : Float).isFinite = true
    decide +kernel
  | succ more inductionHypothesis =>
    unfold divideFar
    split
    · exact Double.isFinite_div_powerOfTen (by omega) finite
    · split
      · exact finite
      · exact inductionHypothesis (Double.isFinite_div_powerOfTen (Nat.le_refl 308) finite) (by omega)

/-- Multiplying may, and then there is no result. -/
theorem isFinite_scale {count : Nat} {exponent : Int} {x : Float}
    (scaled : scale count exponent = some x) : x.isFinite = true := by
  have whole : (ofCount count).isFinite = true := Double.isFinite_ofCount count
  unfold scale at scaled
  dsimp only at scaled
  split at scaled
  · obtain rfl := Option.some.inj scaled
    exact isFinite_divideFar 5 whole (by omega)
  · split at scaled
    · split at scaled
      · obtain rfl := Option.some.inj scaled
        exact whole
      · cases scaled
    · split at scaled
      · cases scaled
      · rename_i within notInfinite
        obtain rfl := Option.some.inj scaled
        refine Double.isFinite_mul whole (Double.isFinite_powerOfTen (by omega)) ?_
        exact Bool.eq_false_iff.mpr notInfinite

/-- What a reader gets has finite numbers only. -/
def GivesFinite (reader : Reader Value) : Prop := reader.Gives fun value => value.isFinite = true

/-- A number that is too large is refused. -/
theorem givesFinite_ofParts (count : Nat) (exponent : Int) :
    GivesFinite (ofParts negative count exponent) := by
  unfold ofParts
  split
  · rename_i scaled
    exact gives_pure (isFinite_ofSign negative (isFinite_scale scaled))
  · exact gives_failHere _

/-- Where the exponent itself is too large, the number is refused, or it is a zero. -/
theorem givesFinite_exponentDigits (count : Nat) (start : Int) (falls : Bool) :
    GivesFinite (exponentDigits negative count start falls) := by
  have zero : (if negative then -0.0 else 0.0 : Float).isFinite = true :=
    isFinite_ofSign negative (by decide +kernel)
  refine gives_bind fun text => ?_
  split
  · exact gives_failHere _
  · split
    · refine gives_bind fun text => gives_bind fun behind => ?_
      dsimp only
      split
      · exact gives_bind fun _ => givesFinite_ofParts negative count _
      · split
        · exact gives_bind fun _ => gives_failHere _
        · exact gives_bind fun _ => gives_pure zero
    · exact gives_failNext _

theorem givesFinite_exponentPart (count : Nat) (start : Int) :
    GivesFinite (exponentPart negative count start) := by
  have digits (falls : Bool) := givesFinite_exponentDigits negative count start falls
  refine gives_bind fun _ => gives_bind fun text => ?_
  split
  · exact gives_seqRight (digits false)
  · exact gives_seqRight (digits true)
  · exact digits false

theorem givesFinite_placesPart (count : Nat) (start : Int) :
    GivesFinite (placesPart negative count start) := by
  refine gives_bind fun _ => gives_bind fun text => ?_
  dsimp only
  split
  · refine gives_bind fun rest => ?_
    split
    · exact gives_failNext _
    · exact gives_failNext _
  · refine gives_bind fun _ => gives_bind fun mark => ?_
    split
    · exact givesFinite_exponentPart negative _ _
    · exact givesFinite_ofParts negative _ _

theorem givesFinite_fractionPart (count : Nat) : GivesFinite (fractionPart negative count) := by
  refine gives_bind fun text => ?_
  split
  · exact givesFinite_placesPart negative count 0
  · refine gives_bind fun mark => ?_
    split
    · exact givesFinite_exponentPart negative count 0
    · split
      · split
        · exact gives_pure (Double.isFinite_neg (Double.isFinite_ofCount count))
        · exact gives_pure rfl
      · exact gives_pure rfl

/-- Each way in which a number is read ends in one of the parts above. -/
theorem givesFinite_number : GivesFinite (number negative) := by
  refine gives_bind fun text => ?_
  split
  · exact gives_failHere _
  · split
    · refine gives_bind fun _ => ?_
      split
      · exact gives_failNext _
      · exact givesFinite_fractionPart negative 0
    · split
      · dsimp only
        refine gives_bind fun _ => ?_
        split
        · exact givesFinite_fractionPart negative _
        · refine gives_bind fun rest => ?_
          split
          · exact givesFinite_placesPart negative _ _
          · refine gives_bind fun mark => ?_
            split
            · exact givesFinite_exponentPart negative _ _
            · exact givesFinite_ofParts negative _ _
      · exact gives_failNext _

end Numbers

theorem givesFinite_scalar (first : Char) : GivesFinite (scalar first) := by
  unfold scalar
  split
  · exact gives_seqRight (gives_pure rfl)
  · split
    · exact gives_seqRight (gives_pure rfl)
    · split
      · exact gives_seqRight (gives_pure rfl)
      · split
        · exact gives_seqRight (givesFinite_number true)
        · split
          · exact givesFinite_number false
          · split
            · have text : Reader.text.Gives fun value => (Value.text value).isFinite = true :=
                fun _ _ _ _ => rfl
              exact gives_seqRight text.map
            · exact gives_failNext _

end Reader

/-! ### What shapes say -/

namespace Shape

open Reader

variable {shape : Shape} {fields : List Field}

/-- What documents of a shape say has finite numbers only. -/
def SaysFinite (shape : Shape) : Prop := ∀ depth, (shape.fromText depth).GivesFinite

theorem saysFinite_text : text.SaysFinite := by
  have finite : Reader.text.Gives fun value => (Value.text value).isFinite = true :=
    fun _ _ _ _ => rfl
  refine fun depth => gives_bind fun first => ?_
  split
  · exact gives_seqRight finite.map
  · exact gives_mismatch first _

theorem saysFinite_bool : bool.SaysFinite := by
  refine fun depth => gives_bind fun first => ?_
  split
  · exact givesFinite_scalar first
  · exact gives_mismatch first _

/-- A whole number that stands for a real one is within the range of doubles. -/
theorem isFinite_realOfWhole (value : Int) : (realOfWhole value).isFinite = true := by
  have whole := Double.isFinite_ofCount value.natAbs
  unfold realOfWhole
  split
  · exact Double.isFinite_neg whole
  · exact whole

theorem saysFinite_real : real.SaysFinite := by
  refine fun depth => gives_bind fun first => ?_
  split
  · refine (givesFinite_scalar first).bind fun value finite => ?_
    split
    · exact gives_pure (isFinite_realOfWhole _)
    · exact gives_pure finite
  · exact gives_mismatch first _

theorem SaysFinite.optional (finite : shape.SaysFinite) : (optional shape).SaysFinite := by
  refine fun depth => gives_bind fun next => ?_
  split
  · exact givesFinite_scalar 'n'
  · exact finite depth

theorem SaysFinite.list (finite : shape.SaysFinite) : (list shape).SaysFinite := by
  refine fun depth => gives_bind fun first => ?_
  split
  · refine Gives.placed (gives_deeper (fun inner => gives_bind fun count => ?_) depth)
    refine (((finite inner).items count true).enclosed listEnd).bind fun values all => gives_pure ?_
    rw [Value.isFinite_list]
    exact List.all_eq_true.mpr all
  · exact gives_mismatch first _

/-- A name says no number. -/
theorem saysFinite_names (known : List String) : (names known).SaysFinite := by
  refine fun depth => gives_bind fun first => ?_
  split
  · refine Gives.bind (@gives_deeper Value (·.isFinite = true) _ (fun inner => ?_) depth)
      fun value finite => gives_bind fun next => ?_
    · refine gives_bind fun name => gives_bind fun _ => ?_
      rw [join_lookup_names]
      refine gives_bind fun first => ?_
      split
      · exact gives_seqRight (gives_pure rfl)
      · exact gives_mismatch first _
    · split
      · exact gives_seqRight (gives_pure finite)
      · exact gives_failHere _
      · exact gives_failHere _
  · refine gives_bind fun name => ?_
    rw [join_lookup_names]
    exact gives_pure rfl
  · exact gives_failNext _

/-! ### Records -/

/-- A field says finite numbers only, also where it is not there. -/
structure Field.SaysFinite (field : Field) : Prop where
  shape : field.shape.SaysFinite
  filled : ∀ value, field.absence = .filled value → value.isFinite = true

theorem SaysFinite.field {shape : Shape} (finite : shape.SaysFinite) (name : String) :
    (Field.of name shape).SaysFinite := ⟨finite, nofun⟩

/-- A field that may be missing says what it is filled with. -/
theorem SaysFinite.filledWith {shape : Shape} (finite : shape.SaysFinite) (name : String)
    {value : Value} (plain : value.isFinite = true) :
    Field.SaysFinite ⟨name, shape, .filled value⟩ := by
  refine ⟨finite, ?_⟩
  rintro other ⟨⟩
  exact plain

/-- The values of named fields are finite. -/
def AreFinite (entries : List (String × Value)) : Prop := ∀ entry ∈ entries, entry.2.isFinite = true

theorem areFinite_nil : AreFinite [] := nofun

theorem Field.SaysFinite.missing {field : Field} (finite : field.SaysFinite)
    {entry : String × Value} (stands : field.missing = .ok entry) : entry.2.isFinite = true := by
  have filled := finite.filled
  unfold Field.missing at stands
  cases absence : field.absence with
  | required =>
    rw [absence] at stands
    cases stands
  | nullable =>
    rw [absence] at stands
    obtain rfl := Except.ok.inj stands
    rfl
  | filled value =>
    rw [absence] at stands
    obtain rfl := Except.ok.inj stands
    exact filled value absence

theorem except_bind_eq_ok {β γ ε : Type} {given : Except ε β} {next : β → Except ε γ} {last : γ}
    (passed : (given >>= next) = .ok last) : ∃ value, given = .ok value ∧ next value = .ok last := by
  cases given with
  | error error => cases passed
  | ok value => exact ⟨value, rfl, passed⟩

/-- Fields come back in their own order, each as it was found or as it is filled in. -/
theorem areFinite_arrange {found entries : List (String × Value)}
    (finite : ∀ field ∈ fields, field.SaysFinite) (known : AreFinite found)
    (arranged : arrange fields found = .ok entries) : AreFinite entries := by
  unfold arrange at arranged
  induction fields generalizing entries with
  | nil =>
    obtain rfl := Except.ok.inj arranged
    exact areFinite_nil
  | cons field more inductionHypothesis =>
    obtain ⟨field, others⟩ := List.forall_mem_cons.mp finite
    rw [List.mapM_cons] at arranged
    obtain ⟨entry, first, arranged⟩ := except_bind_eq_ok arranged
    obtain ⟨rest, second, arranged⟩ := except_bind_eq_ok arranged
    obtain rfl := Except.ok.inj arranged
    refine List.forall_mem_cons.mpr ⟨?_, inductionHypothesis others second⟩
    split at first
    · rename_i there
      obtain rfl := Except.ok.inj first
      exact known _ (List.mem_of_find?_eq_some there)
    · exact field.missing first

/-- A record in the form of a list, field by field. -/
theorem gives_readTuple (finite : ∀ field ∈ fields, field.SaysFinite) (expected : String)
    (depth index : Nat) (isFirst : Bool) :
    (readTuple expected depth fields index isFirst).Gives AreFinite := by
  induction fields generalizing index isFirst with
  | nil => exact gives_pure areFinite_nil
  | cons field more inductionHypothesis =>
    obtain ⟨field, others⟩ := List.forall_mem_cons.mp finite
    refine gives_bind fun goesOn => ?_
    split
    · refine (field.shape depth).bind fun value first => ?_
      refine (inductionHypothesis others (index + 1) false).bind fun values rest => ?_
      exact gives_pure (List.forall_mem_cons.mpr ⟨first, rest⟩)
    · split
      · rename_i filled
        refine (inductionHypothesis others (index + 1) isFirst).bind fun values rest => ?_
        exact gives_pure (List.forall_mem_cons.mpr ⟨field.filled _ filled, rest⟩)
      · exact gives_throw _

/-- A record in the form of an object, where unknown names are passed over. -/
theorem gives_readNamed (finite : ∀ field ∈ fields, field.SaysFinite) (depth count : Nat)
    (isFirst : Bool) {found : List (String × Value)} (known : AreFinite found) :
    (readNamed fields depth count isFirst found).Gives AreFinite := by
  induction count generalizing isFirst found with
  | zero => exact gives_pure known
  | succ more inductionHypothesis =>
    refine gives_bind fun goesOn => ?_
    split
    · refine gives_bind fun key => ?_
      split
      · rename_i field there
        split
        · exact gives_throw _
        · have field := finite _ (List.mem_of_find?_eq_some there)
          refine gives_bind fun _ => (field.shape depth).bind fun value first => ?_
          exact inductionHypothesis false (List.forall_mem_cons.mpr ⟨first, known⟩)
      · exact gives_bind fun _ => gives_bind fun _ => inductionHypothesis false known
    · exact gives_pure known

/-- A record says finite numbers only, whichever of its two forms it takes. -/
theorem saysFinite_record (expected : String) (finite : ∀ field ∈ fields, field.SaysFinite) :
    (record expected fields).SaysFinite := by
  have object {entries : List (String × Value)} (all : AreFinite entries) :
      (Value.object entries).isFinite = true := by
    rw [Value.isFinite_object]
    exact List.all_eq_true.mpr all
  refine fun depth => gives_bind fun first => ?_
  split
  · refine Gives.placed (gives_deeper (fun inner => Gives.map ?_) depth)
    refine Gives.enclosed ?_ listEnd
    exact (gives_readTuple finite _ inner 0 true).mono fun entries => object
  · split
    · refine Gives.placed (gives_deeper (fun inner => gives_bind fun count => Gives.map ?_) depth)
      refine Gives.enclosed ?_ objectEnd
      refine (gives_readNamed finite inner count true areFinite_nil).bind fun found known => ?_
      cases arranged : arrange fields found with
      | error fault => exact gives_throw fault
      | ok entries => exact gives_pure (object (areFinite_arrange finite known arranged))
    · exact gives_mismatch first expected

/-! ### What is taken from documents -/

/-- What is taken from a document is taken from a value with finite numbers only. -/
theorem SaysFinite.exists_of_readAs {β : Type} {take : Value → Option β} {text : String} {taken : β}
    (finite : shape.SaysFinite) (read : shape.readAs take text = .ok taken) :
    ∃ value, value.isFinite = true ∧ take value = some taken := by
  obtain ⟨value, rest, after, found, -, takes⟩ := Shape.exists_of_readAs read
  exact ⟨value, finite depthLimit _ value rest found, takes⟩

end Shape

end ReleasePlayer.Json
