/-
This file proves what becomes of a written value when it is read again: it comes back if all its numbers
are finite, and is refused otherwise, as `null` stands for a number that there is not. A number that is
finite has to be read back on its own; that is said of each number, and nothing is assumed of the others.
-/

import ReleasePlayer.Decimal.Reading
import ReleasePlayer.Proofs.Double.Text
import ReleasePlayer.Proofs.Json.Shape
import ReleasePlayer.Proofs.Json.Writer

namespace ReleasePlayer

/-- The texts of a double are read as the double again, both the plain one and the one in a
document. -/
def Double.ReadsBack (x : Float) : Prop :=
  Double.read (Double.text x) = some x ∧
    Json.Shape.real.readAs Json.Value.real? (Double.document x) = .ok x

namespace Json

/-! ### Finite values -/

mutual

/-- Whether all numbers of a value are finite. -/
def Value.isFinite : Value → Bool
  | .real value => value.isFinite
  | .list items => areFinite items
  | .object fields => fieldsAreFinite fields
  | _ => true

def Value.areFinite : List Value → Bool
  | [] => true
  | item :: more => item.isFinite && areFinite more

def Value.fieldsAreFinite : List (String × Value) → Bool
  | [] => true
  | (_, value) :: more => value.isFinite && fieldsAreFinite more

end

/-- What is read for a value that was written. -/
def Value.readBack (value : Value) : Option Value := if value.isFinite then some value else none

namespace Value

theorem isFinite_list (items : List Value) : (list items).isFinite = items.all isFinite := by
  show areFinite items = _
  induction items with
  | nil => rfl
  | cons item more inductionHypothesis =>
    rw [List.all_cons, ← inductionHypothesis]
    rfl

theorem isFinite_object (fields : List (String × Value)) :
    (object fields).isFinite = fields.all (·.2.isFinite) := by
  show fieldsAreFinite fields = _
  induction fields with
  | nil => rfl
  | cons entry more inductionHypothesis =>
    rw [List.all_cons, ← inductionHypothesis]
    rfl

theorem readBack_bind (value : Value) :
    (value.readBack.bind fun _ => some value) = value.readBack := by
  unfold readBack
  cases value.isFinite <;> rfl

theorem mapM_readBack (items : List Value) :
    items.mapM readBack = if items.all isFinite then some items else none := by
  induction items with
  | nil => rfl
  | cons item more inductionHypothesis =>
    rw [List.mapM_cons, inductionHypothesis, List.all_cons]
    unfold readBack
    cases item.isFinite <;> cases more.all isFinite <;> rfl

theorem mapM_readBack_fields (fields : List (String × Value)) :
    (fields.mapM fun entry => entry.2.readBack.map fun value => (entry.1, value)) =
      if fields.all (·.2.isFinite) then some fields else none := by
  induction fields with
  | nil => rfl
  | cons entry more inductionHypothesis =>
    rw [List.mapM_cons, inductionHypothesis, List.all_cons]
    unfold readBack
    cases entry.2.isFinite <;> cases more.all (·.2.isFinite) <;> rfl

theorem writtenItems_eq (items : List Value) : writtenItems items = items.map written := by
  induction items with
  | nil => rfl
  | cons item more inductionHypothesis =>
    rw [List.map_cons, ← inductionHypothesis]
    rfl

theorem writtenFields_eq (fields : List (String × Value)) :
    writtenFields fields = fields.map fun entry => writtenText entry.1 ++ ':' :: entry.2.written := by
  induction fields with
  | nil => rfl
  | cons entry more inductionHypothesis =>
    rw [List.map_cons, ← inductionHypothesis]
    rfl

end Value

/-! ### Written values -/

namespace Shape

open Reader

variable {shape : Shape} {levels : Nat}

theorem not_isBlank_document (x : Float) :
    ∀ c ∈ (Double.document x).toList, Reader.isBlank c = false := by
  intro c member
  have visible := Double.isVisible_document x c member
  unfold Text.IsVisible at visible
  simp only [Reader.isBlank, Bool.or_eq_false_iff, decide_eq_false_iff_not]
  refine ⟨⟨⟨?_, ?_⟩, ?_⟩, ?_⟩ <;> rintro rfl <;> revert visible <;> decide

theorem reads_real_some {x : Float} (finite : x.isFinite = true) (readsBack : Double.ReadsBack x) :
    real.Reads 0 (Value.real x).written (some (.real x)) := by
  intro depth behind _ ends
  have written : (Value.real x).written = (Double.document x).toList := if_pos finite
  have alone := readsBack.2
  rw [← @String.ofList_toList (Double.document x)] at alone
  rw [written]
  exact real_yields (not_isBlank_document x) alone ends depth

/-- A number comes back unless it is not finite. -/
theorem reads_real {x : Float} (readsBack : x.isFinite = true → Double.ReadsBack x) :
    real.Reads 0 (Value.real x).written (Value.real x).readBack := by
  have known : (Value.real x).readBack = if x.isFinite then some (.real x) else none := rfl
  rw [known]
  cases finite : x.isFinite with
  | false => exact reads_real_none finite
  | true => exact reads_real_some finite (readsBack finite)

/-- What is read as a number is not `null`. -/
theorem ne_null_of_reads_real {first : Char} {more : List Char} {value : Value}
    (reads : real.Reads 0 (first :: more) (some value)) : first ≠ 'n' := by
  rintro rfl
  have read := reads 1 [] Nat.zero_lt_one ends_nil
  have refused : (real.fromText 1).Yields ('n' :: more ++ []) none [] :=
    Yields.bind (peekValue_cons rfl _) (mismatch_yields 'n' "f64" _)
  obtain ⟨fault, after, failed⟩ := refused
  cases (Prod.mk.inj (failed.symm.trans read)).1

/-- A finite number may stand where `null` may. -/
theorem reads_optional_real {x : Float} (finite : x.isFinite = true)
    (readsBack : Double.ReadsBack x) :
    (optional real).Reads 0 (Value.real x).written (some (.real x)) := by
  have written : (Value.real x).written = (Double.document x).toList := if_pos finite
  have reads := reads_real_some finite readsBack
  rw [written] at reads ⊢
  cases chars : (Double.document x).toList with
  | nil =>
    have read := reads 1 [] Nat.zero_lt_one ends_nil
    rw [chars] at read
    cases (Prod.mk.inj read).1
  | cons first more =>
    have notBlank := not_isBlank_document x first (by rw [chars]; exact List.mem_cons_self)
    rw [chars] at reads
    exact reads_optional reads notBlank (ne_null_of_reads_real reads)

theorem reads_optional_text (content : String) :
    (optional text).Reads 0 (writtenText content) (some (.text content)) :=
  reads_optional (reads_text content) rfl (by decide)

/-- An object as an item of a list. -/
def Item.ofObject (value : Value) : Item := ⟨'\x7b', value.written.tail, value.readBack⟩

theorem Item.mapM_ofObject (items : List Value) :
    ((items.map ofObject).mapM Item.value).map Value.list = (Value.list items).readBack := by
  rw [List.mapM_map]
  show (items.mapM Value.readBack).map Value.list = _
  rw [Value.mapM_readBack, Value.readBack, Value.isFinite_list]
  cases items.all Value.isFinite <;> rfl

/-- A list of objects is read if each of them is. -/
theorem reads_items {items : List Value}
    (each : ∀ item ∈ items, ∃ fields, item = .object fields ∧
      shape.Reads levels item.written item.readBack) :
    (Shape.list shape).Reads (levels + 1) (Value.list items).written
      (Value.list items).readBack := by
  have texts : (items.map Item.ofObject).map Item.text = Value.writtenItems items := by
    rw [Value.writtenItems_eq, List.map_map]
    refine List.map_congr_left fun item member => ?_
    obtain ⟨fields, rfl, _⟩ := each item member
    rfl
  have good : ∀ item ∈ items.map Item.ofObject, item.Good shape levels := by
    intro item listed
    obtain ⟨value, member, rfl⟩ := List.mem_map.mp listed
    obtain ⟨fields, rfl, reads⟩ := each value member
    have notEnd : '\x7b' ≠ ']' := by decide
    exact ⟨rfl, notEnd, reads⟩
  have reads := reads_list good
  rw [texts, Item.mapM_ofObject] at reads
  exact reads

/-- A value under a name as a field of a record. -/
def Entry.ofField (field : String × Value) : Entry := ⟨field.1, field.2.written, field.2.readBack⟩

theorem Entry.pairs_ofField (fields : List (String × Value)) :
    Entry.pairs (fields.map ofField) [] =
      (Value.object fields).readBack.map fun _ => fields.reverse := by
  have values : (fields.map ofField).mapM Entry.pair =
      fields.mapM fun entry => entry.2.readBack.map fun value => (entry.1, value) := by
    rw [List.mapM_map]
    rfl
  unfold Entry.pairs
  rw [values, Value.mapM_readBack_fields, Value.readBack, Value.isFinite_object]
  cases fields.all (·.2.isFinite) with
  | false => rfl
  | true =>
    show some (fields.reverse ++ []) = some fields.reverse
    rw [List.append_nil]

/-- An object is read as a record if each of its fields is, and no field that is needed is missing. -/
theorem reads_object {known : List Field} (expected : String) {fields : List (String × Value)}
    (each : ∀ entry ∈ fields, ∃ field, known.find? (·.name == entry.1) = some field ∧
      field.shape.Reads levels entry.2.written entry.2.readBack)
    (apart : (fields.map (·.1)).Nodup) :
    (record expected known).Reads (levels + 1) (Value.object fields).written
      ((Value.object fields).readBack.bind fun _ =>
        (arrange known fields.reverse).toOption.map Value.object) := by
  have texts : (fields.map Entry.ofField).map Entry.text = Value.writtenFields fields := by
    rw [Value.writtenFields_eq, List.map_map]
    rfl
  have names : ((fields.map Entry.ofField).map Entry.name).Nodup := by
    rw [List.map_map]
    exact apart
  have good : ∀ entry ∈ fields.map Entry.ofField, entry.Good known levels := by
    intro entry listed
    obtain ⟨field, member, rfl⟩ := List.mem_map.mp listed
    exact each field member
  have reads : (record expected known).Reads _ _ _ := reads_record good names
  rw [texts, Entry.pairs_ofField, Option.bind_map] at reads
  exact reads

/-! ### Written documents -/

variable {β : Type} {take : Value → Option β} {value : Value}

/-- A value is what its document says. -/
theorem readAs_document {read : Value} {taken : β}
    (reads : shape.Reads levels value.written (some read)) (shallow : levels < depthLimit)
    (takes : take read = some taken) : shape.readAs take value.document = .ok taken := by
  have alone := reads depthLimit [] shallow ends_nil
  rw [List.append_nil, ← @String.toList_ofList value.written] at alone
  exact readAs_of_yields alone takes

theorem readAs_document_none (refuses : shape.Reads levels value.written none)
    (shallow : levels < depthLimit) : ∃ problem, shape.readAs take value.document = .error problem := by
  have alone := refuses depthLimit [] shallow ends_nil
  rw [List.append_nil, ← @String.toList_ofList value.written] at alone
  exact readAs_of_none alone

end Shape

end Json

end ReleasePlayer
