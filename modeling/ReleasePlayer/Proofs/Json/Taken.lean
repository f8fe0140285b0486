/-
This file proves what becomes of a value that is handed over as it is, without a text in between. There
is no number that is not finite, and `null` stands for it; the fields of an object may come in any order.
A record or an alternative with a tag then comes back as it was if all its numbers are finite, and is
refused otherwise.
-/

import ReleasePlayer.Proofs.Config.Settings
import ReleasePlayer.Proofs.Json.Finite

namespace ReleasePlayer.Json

/-! ### Values that are handed over -/

mutual

/-- A value as it is handed over. -/
def Value.settled : Value → Value
  | .real value => if value.isFinite then .real value else .null
  | .list items => .list (settledItems items)
  | .object fields => .object (settledFields fields)
  | value => value

def Value.settledItems : List Value → List Value
  | [] => []
  | item :: more => item.settled :: settledItems more

def Value.settledFields : List (String × Value) → List (String × Value)
  | [] => []
  | (name, value) :: more => (name, value.settled) :: settledFields more

end

/-- The same value, with the fields of an object in any order. -/
inductive Value.Reorders : Value → Value → Prop where
  | same (value : Value) : Reorders value value
  | object {entries fields : List (String × Value)} (same : entries.Perm fields) :
    Reorders (.object entries) (.object fields)

namespace Value

theorem Reorders.exists_object {given : Value} {fields : List (String × Value)}
    (same : given.Reorders (.object fields)) :
    ∃ entries, given = .object entries ∧ entries.Perm fields := by
  cases same with
  | same => exact ⟨fields, rfl, List.Perm.refl fields⟩
  | object order => exact ⟨_, rfl, order⟩

theorem settled_real (x : Float) : (real x).settled = if x.isFinite then real x else null := rfl

theorem settledFields_eq (fields : List (String × Value)) :
    settledFields fields = fields.map fun entry => (entry.1, entry.2.settled) := by
  induction fields with
  | nil => rfl
  | cons entry more inductionHypothesis =>
    rw [List.map_cons, ← inductionHypothesis]
    rfl

theorem names_settledFields (fields : List (String × Value)) :
    (settledFields fields).map (·.1) = fields.map (·.1) := by
  rw [settledFields_eq, List.map_map]
  rfl

mutual

/-- A value whose numbers are finite is handed over as it is. -/
theorem settled_of_isFinite : (value : Value) → value.isFinite = true → value.settled = value
  | .null, _ => rfl
  | .bool _, _ => rfl
  | .whole _, _ => rfl
  | .real _, finite => if_pos finite
  | .text _, _ => rfl
  | .list items, finite => congrArg list (settledItems_of_areFinite items finite)
  | .object fields, finite => congrArg object (settledFields_of_areFinite fields finite)

theorem settledItems_of_areFinite :
    (items : List Value) → areFinite items = true → settledItems items = items
  | [], _ => rfl
  | item :: more, finite => by
    obtain ⟨here, others⟩ := Bool.and_eq_true_iff.mp finite
    show item.settled :: settledItems more = item :: more
    rw [settled_of_isFinite item here, settledItems_of_areFinite more others]

theorem settledFields_of_areFinite :
    (fields : List (String × Value)) → fieldsAreFinite fields = true → settledFields fields = fields
  | [], _ => rfl
  | (name, value) :: more, finite => by
    obtain ⟨here, others⟩ := Bool.and_eq_true_iff.mp finite
    show (name, value.settled) :: settledFields more = (name, value) :: more
    rw [settled_of_isFinite value here, settledFields_of_areFinite more others]

end

mutual

/-- What is handed over is written as the value itself is. -/
theorem written_settled : (value : Value) → value.settled.written = value.written
  | .null => rfl
  | .bool _ => rfl
  | .whole _ => rfl
  | .real x => by
    show (if x.isFinite then real x else null).written =
      if x.isFinite then (Double.document x).toList else "null".toList
    cases finite : x.isFinite with
    | false => rfl
    | true => exact if_pos finite
  | .text _ => rfl
  | .list items =>
    congrArg (fun texts => '[' :: ([','].intercalate texts ++ [']'])) (writtenItems_settled items)
  | .object fields =>
    congrArg (fun texts => '\x7b' :: ([','].intercalate texts ++ ['\x7d']))
      (writtenFields_settled fields)

theorem writtenItems_settled :
    (items : List Value) → writtenItems (settledItems items) = writtenItems items
  | [] => rfl
  | item :: more => by
    show item.settled.written :: writtenItems (settledItems more) = item.written :: writtenItems more
    rw [written_settled item, writtenItems_settled more]

theorem writtenFields_settled :
    (fields : List (String × Value)) → writtenFields (settledFields fields) = writtenFields fields
  | [] => rfl
  | (name, value) :: more => by
    show (writtenText name ++ ':' :: value.settled.written) :: writtenFields (settledFields more) =
      (writtenText name ++ ':' :: value.written) :: writtenFields more
    rw [written_settled value, writtenFields_settled more]

end

end Value

namespace Shape

/-- Takes what a value says that was handed over. -/
def takeAs {β : Type} (shape : Shape) (take : Value → Option β) (value : Value) : Except Fault β :=
  match shape.fromValue value with
  | .error fault => .error fault
  | .ok value =>
    match take value with
    | some taken => .ok taken
    | none => .error (.unplaced .valueExpected)

section Outcomes

variable {β : Type} {outcome : Except Fault β}

theorem eq_ok_of_toOption {value : β} (some : outcome.toOption = some value) : outcome = .ok value := by
  cases outcome with
  | error fault => cases some
  | ok other => rw [Option.some.inj some]

theorem exists_error_of_toOption (none : outcome.toOption = none) : ∃ fault, outcome = .error fault := by
  cases outcome with
  | error fault => exact ⟨fault, rfl⟩
  | ok value => cases none

end Outcomes

theorem toOption_map {β γ : Type} (f : β → γ) (outcome : Except Fault β) :
    (f <$> outcome).toOption = outcome.toOption.map f := by
  cases outcome <;> rfl

theorem toOption_bind {β γ : Type} (outcome : Except Fault β) (next : β → Except Fault γ) :
    (outcome >>= next).toOption = outcome.toOption.bind fun value => (next value).toOption := by
  cases outcome <;> rfl

theorem toOption_takeAs {β : Type} (shape : Shape) (take : Value → Option β) (value : Value) :
    (shape.takeAs take value).toOption = (shape.fromValue value).toOption.bind take := by
  unfold takeAs
  cases shape.fromValue value with
  | error fault => rfl
  | ok taken =>
    show _ = take taken
    dsimp only
    cases take taken <;> rfl

/-- A value that is handed over comes back, in whatever order its fields are, unless a number of it is
not finite. -/
def Returns (shape : Shape) (value : Value) : Prop :=
  ∀ given, given.Reorders value.settled → (shape.fromValue given).toOption = value.readBack

namespace Returns

variable {shape : Shape} {value : Value}

theorem fromValue_eq (returns : shape.Returns value) (finite : value.isFinite = true) :
    shape.fromValue value = .ok value := by
  have outcome := returns value.settled (.same _)
  rw [value.settled_of_isFinite finite, Value.readBack, if_pos finite] at outcome
  exact eq_ok_of_toOption outcome

theorem fromValue_settled_ne (returns : shape.Returns value) (notFinite : value.isFinite = false)
    (other : Value) : shape.fromValue value.settled ≠ .ok other := by
  intro taken
  have outcome := returns value.settled (.same _)
  rw [taken, Value.readBack, notFinite] at outcome
  cases outcome

end Returns

/-! ### Plain values -/

section Plain

theorem returns_text (content : String) : text.Returns (.text content) := by
  rintro _ ⟨⟩
  rfl

theorem returns_bool (value : Bool) : bool.Returns (.bool value) := by
  rintro _ ⟨⟩
  rfl

/-- A number comes back unless it is not finite. -/
theorem returns_real (x : Float) : real.Returns (.real x) := by
  intro given same
  have known : (Value.real x).readBack = if x.isFinite then some (.real x) else none := rfl
  rw [Value.settled_real] at same
  rw [known]
  cases finite : x.isFinite with
  | false =>
    rw [finite] at same
    cases same
    rfl
  | true =>
    rw [finite] at same
    cases same
    rfl

theorem returns_count (value : Nat) : count.Returns (.whole value) := by
  rintro _ ⟨⟩
  have proper : ¬(value : Int) < 0 := by omega
  have taken : takeCount (.whole value) = .ok (.whole value) := by
    unfold takeCount
    exact if_neg proper
  show (takeCount (.whole value)).toOption = some (.whole value)
  rw [taken]
  rfl

theorem returns_optional_text (content : Option String) :
    (optional text).Returns (.ofOption .text content) := by
  cases content <;> rintro _ ⟨⟩ <;> rfl

end Plain

/-! ### Records -/

section Records

variable {known : List Field} {fields entries found : List (String × Value)}

/-- Values under the names of the fields of a record, in their order, each of which comes back on its
own. -/
inductive Fit : List Field → List (String × Value) → Prop where
  | nil : Fit [] []
  | cons {field : Field} {known : List Field} {value : Value} {fields : List (String × Value)}
    (returns : field.shape.Returns value) (others : Fit known fields) :
    Fit (field :: known) ((field.name, value) :: fields)

/-- A name that is not among those of other entries is the name of none of them. -/
theorem name_beq_false {name : String} (notThere : name ∉ entries.map (·.1)) {entry : String × Value}
    (member : entry ∈ entries) : (name == entry.1) = false := by
  have there : entry.1 ∈ entries.map (·.1) := List.mem_map_of_mem member
  refine beq_false_of_ne fun same => ?_
  rw [← same] at there
  exact notThere there

namespace Fit

theorem names (fit : Fit known fields) : fields.map (·.1) = known.map Field.name := by
  induction fit with
  | nil => rfl
  | cons _ _ inductionHypothesis => rw [List.map_cons, List.map_cons, inductionHypothesis]

/-- Where names are distinct, the field of an entry is found under its name. -/
theorem exists_field (fit : Fit known fields) (apart : (known.map Field.name).Nodup) :
    ∀ entry ∈ fields, ∃ field, known.find? (·.name == entry.1) = some field ∧
      field.shape.Returns entry.2 := by
  induction fit with
  | nil => exact fun _ member => nomatch member
  | @cons field known value fields returns others inductionHypothesis =>
    obtain ⟨notThere, apart⟩ := List.nodup_cons.mp apart
    rw [← others.names] at notThere
    refine List.forall_mem_cons.mpr ⟨⟨field, ?_, returns⟩, fun entry member => ?_⟩
    · exact List.find?_cons_of_pos (beq_self_eq_true field.name)
    · have behind : (field :: known).find? (·.name == entry.1) = known.find? (·.name == entry.1) :=
        List.find?_cons_of_neg (Bool.eq_false_iff.mp (name_beq_false notThere member))
      rw [behind]
      exact inductionHypothesis apart entry member

end Fit

/-- Entries with new names, each taken as it is, are all found. -/
theorem takeNamed_of_each :
    (∀ entry ∈ entries, ∃ field, known.find? (·.name == entry.1) = some field ∧
      field.shape.fromValue entry.2 = .ok entry.2) →
    ∀ {found : List (String × Value)}, (entries.map (·.1)).Nodup →
      (∀ entry ∈ entries, found.any (·.1 == entry.1) = false) →
        takeNamed known entries found = .ok (entries.reverse ++ found) := by
  induction entries with
  | nil => exact fun _ _ _ _ => rfl
  | cons entry more inductionHypothesis =>
    intro each found apart isNew
    obtain ⟨field, here, taken⟩ := each entry List.mem_cons_self
    obtain ⟨notThere, apart⟩ := List.nodup_cons.mp apart
    rw [takeNamed, here]
    dsimp only
    rw [isNew entry List.mem_cons_self, if_neg Bool.false_ne_true, taken, List.reverse_cons,
      List.append_assoc]
    refine inductionHypothesis (fun other member => each other (List.mem_cons_of_mem entry member))
      apart fun other member => ?_
    rw [List.any_cons, name_beq_false notThere member, isNew other (List.mem_cons_of_mem entry member)]
    rfl

/-- If entries are taken, then so is each of them that has the name of a field. -/
theorem fromValue_of_takeNamed :
    ∀ {found taken : List (String × Value)}, takeNamed known entries found = .ok taken →
      ∀ entry ∈ entries, ∀ field, known.find? (·.name == entry.1) = some field →
        ∃ value, field.shape.fromValue entry.2 = .ok value := by
  induction entries with
  | nil => exact fun _ _ member => nomatch member
  | cons first more inductionHypothesis =>
    intro found taken all entry member field here
    rw [takeNamed] at all
    rcases List.mem_cons.mp member with rfl | behind
    · rw [here] at all
      dsimp only at all
      split at all
      · cases all
      · obtain ⟨value, fine, -⟩ := except_bind_eq_ok all
        exact ⟨value, fine⟩
    · split at all
      · split at all
        · cases all
        · obtain ⟨value, -, others⟩ := except_bind_eq_ok all
          exact inductionHypothesis others entry behind field here
      · exact inductionHypothesis all entry behind field here

/-- Fields that are found under their names are put into their order. -/
theorem arrange_of_find? (names : fields.map (·.1) = known.map Field.name)
    (here : ∀ entry ∈ fields, found.find? (·.1 == entry.1) = some entry) :
    arrange known found = .ok fields := by
  induction known generalizing fields with
  | nil =>
    rw [List.map_nil, List.map_eq_nil_iff] at names
    rw [names]
    rfl
  | cons field known inductionHypothesis =>
    obtain ⟨entry, more, rfl, name, names⟩ := List.map_eq_cons_iff.mp names
    refine arrange_found ?_ (inductionHypothesis names fun other member =>
      here other (List.mem_cons_of_mem entry member))
    rw [← name]
    exact here entry List.mem_cons_self

section Handed

variable (expected : String) (fit : Fit known fields) (apart : (known.map Field.name).Nodup)

include fit apart

theorem takeFields_of_finite (finite : fields.all (·.2.isFinite) = true) (order : entries.Perm fields) :
    takeFields expected known (.object entries) = .ok fields := by
  have fieldsApart : (fields.map (·.1)).Nodup := by
    rw [fit.names]
    exact apart
  have entriesApart : (entries.map (·.1)).Nodup := (order.map _).nodup_iff.mpr fieldsApart
  have taken : takeNamed known entries [] = .ok (entries.reverse ++ []) := by
    refine takeNamed_of_each (fun entry member => ?_) entriesApart fun _ _ => rfl
    have inFields := order.mem_iff.mp member
    obtain ⟨field, here, returns⟩ := fit.exists_field apart entry inFields
    exact ⟨field, here, returns.fromValue_eq (List.all_eq_true.mp finite entry inFields)⟩
  have found (entry : String × Value) (member : entry ∈ fields) :
      entries.reverse.find? (·.1 == entry.1) = some entry := by
    rw [find?_eq_of_perm fieldsApart (entries.reverse_perm.trans order)]
    exact (find?_eq_some_iff_mem fieldsApart).mpr ⟨member, rfl⟩
  show (takeNamed known entries []).bind (arrange known) = .ok fields
  rw [taken, List.append_nil]
  exact arrange_of_find? fit.names found

theorem takeFields_of_not_finite (notFinite : fields.all (·.2.isFinite) = false)
    (order : entries.Perm (Value.settledFields fields)) :
    ∃ fault, takeFields expected known (.object entries) = .error fault := by
  obtain ⟨entry, member, lost⟩ := List.all_eq_false.mp notFinite
  obtain ⟨field, here, returns⟩ := fit.exists_field apart entry member
  have handed : (entry.1, entry.2.settled) ∈ entries := by
    rw [order.mem_iff, Value.settledFields_eq]
    exact List.mem_map_of_mem member
  show ∃ fault, (takeNamed known entries []).bind (arrange known) = .error fault
  cases outcome : takeNamed known entries [] with
  | error fault => exact ⟨fault, rfl⟩
  | ok taken =>
    obtain ⟨value, fine⟩ := fromValue_of_takeNamed outcome _ handed field here
    exact absurd fine (returns.fromValue_settled_ne (Bool.eq_false_iff.mpr lost) value)

/-- The fields of a record come back, in whatever order they are handed over, unless a number among
them is not finite. -/
theorem takeFields_of_fit (order : entries.Perm (Value.settledFields fields)) :
    (takeFields expected known (.object entries)).toOption =
      if fields.all (·.2.isFinite) then some fields else none := by
  cases finite : fields.all (·.2.isFinite) with
  | false =>
    obtain ⟨fault, refused⟩ := takeFields_of_not_finite expected fit apart finite order
    rw [refused]
    rfl
  | true =>
    rw [Value.settledFields_of_areFinite fields ((Value.isFinite_object fields).trans finite)] at order
    rw [takeFields_of_finite expected fit apart finite order]
    rfl

end Handed

/-- A record comes back if its fields do. -/
theorem returns_record (expected : String) (fit : Fit known fields)
    (apart : (known.map Field.name).Nodup) : (record expected known).Returns (.object fields) := by
  intro given same
  obtain ⟨entries, rfl, order⟩ := same.exists_object
  show (Value.object <$> takeFields expected known (.object entries)).toOption = _
  rw [toOption_map, takeFields_of_fit expected fit apart order, Value.readBack, Value.isFinite_object]
  cases fields.all (·.2.isFinite) <;> rfl

end Records

/-! ### Alternatives -/

theorem takeVariant_of_contains {known : List String} {name : String}
    (isKnown : known.contains name = true) : takeVariant known name = .ok name :=
  if_pos isKnown

theorem returns_name {known : List String} {name : String} (isKnown : known.contains name = true) :
    (names known).Returns (.text name) := by
  rintro _ ⟨⟩
  have all : (known.map fun name => (name, (none : Option Shape))).map (·.1) = known := by
    rw [List.map_map]
    exact List.map_id known
  unfold names choice
  dsimp only [Value.settled]
  rw [all, takeVariant_of_contains isKnown]
  simp only [bind, Except.bind]
  rw [join_lookup_names]
  rfl

/-- What is carried under a name comes back with it. -/
theorem returns_carried {variants : List (String × Option Shape)} {name : String} {carried : Shape}
    {value : Value} (isKnown : (variants.map (·.1)).contains name = true)
    (here : variants.lookup name = some (some carried)) (returns : carried.Returns value) :
    (choice variants).Returns (.object [(name, value)]) := by
  intro given same
  obtain ⟨entries, rfl, order⟩ := same.exists_object
  obtain rfl := List.perm_singleton.mp order
  have taken : (choice variants).fromValue (.object [(name, value.settled)]) =
      (carried.fromValue value.settled).bind fun taken => .ok (.object [(name, taken)]) := by
    unfold choice
    dsimp only
    rw [takeVariant_of_contains isKnown]
    simp only [bind, Except.bind]
    rw [here]
    rfl
  have finite : (Value.object [(name, value)]).isFinite = value.isFinite := Bool.and_true _
  rw [taken]
  refine (toOption_bind _ _).trans ?_
  rw [returns _ (.same _), Value.readBack, Value.readBack, finite]
  cases value.isFinite <;> rfl

/-! ### Tags -/

section Tags

variable {tag name expected : String} {variants : List Tagged} {variant : Tagged}
  {fields entries : List (String × Value)}

/-- An entry with another name is put aside. -/
theorem takeEntries_cons_of_ne {known : List String} {seen : Option String}
    {found : List (String × Value)} {entry : String × Value} (other : tag ≠ entry.1) :
    takeEntries tag known seen found (entry :: entries) =
      takeEntries tag known seen (entry :: found) entries :=
  if_neg other.symm

/-- Entries without the tag are put aside. -/
theorem takeEntries_of_none (known : List String) (seen : Option String)
    (none : tag ∉ entries.map (·.1)) :
    ∀ found, takeEntries tag known seen found entries = .ok (seen, found.reverse ++ entries) := by
  induction entries with
  | nil =>
    intro found
    rw [List.append_nil]
    rfl
  | cons entry more inductionHypothesis =>
    intro found
    rw [List.map_cons, List.mem_cons, not_or] at none
    rw [takeEntries_cons_of_ne none.1, inductionHypothesis none.2, List.reverse_cons,
      List.append_assoc]
    rfl

/-- The tag is found wherever it is among the entries. -/
theorem takeEntries_of_tag {known : List String} (isKnown : known.contains name = true)
    {before behind : List (String × Value)} (noneBefore : tag ∉ before.map (·.1))
    (noneBehind : tag ∉ behind.map (·.1)) :
    ∀ found, takeEntries tag known none found (before ++ (tag, .text name) :: behind) =
      .ok (some name, found.reverse ++ (before ++ behind)) := by
  induction before with
  | nil =>
    intro found
    rw [List.nil_append, takeEntries, if_pos rfl]
    rw [if_neg (by decide), takeVariant_of_contains isKnown]
    exact takeEntries_of_none known (some name) noneBehind found
  | cons entry more inductionHypothesis =>
    intro found
    rw [List.map_cons, List.mem_cons, not_or] at noneBefore
    rw [List.cons_append, takeEntries_cons_of_ne noneBefore.1, inductionHypothesis noneBefore.2,
      List.reverse_cons, List.append_assoc]
    rfl

/-- The fields under a tag come back, in whatever order they are handed over. -/
theorem takeTagged_of_fit (here : variants.find? (·.name == name) = some variant)
    (fit : Fit variant.fields fields) (apart : (variant.fields.map Field.name).Nodup)
    (order : entries.Perm (Value.settledFields fields)) :
    (takeTagged tag variants name (.object entries)).toOption =
      if fields.all (·.2.isFinite) then some (.object ((tag, .text name) :: fields)) else none := by
  unfold takeTagged
  rw [here]
  dsimp only
  split
  · rename_i empty
    have none : fields.map (·.1) = [] := by
      rw [fit.names, List.isEmpty_iff.mp empty]
      rfl
    rw [List.map_eq_nil_iff.mp none]
    rfl
  · refine (toOption_bind _ _).trans ?_
    rw [takeFields_of_fit variant.expected fit apart order]
    cases fields.all (·.2.isFinite) <;> rfl

/-- A record under its tag comes back if its fields do. -/
theorem returns_tagged (here : variants.find? (·.name == name) = some variant)
    (fit : Fit variant.fields fields) (apart : (tag :: variant.fields.map Field.name).Nodup) :
    (tagged expected tag variants).Returns (.object ((tag, .text name) :: fields)) := by
  intro given same
  obtain ⟨entries, rfl, order⟩ := same.exists_object
  replace order : entries.Perm ((tag, .text name) :: Value.settledFields fields) := order
  obtain ⟨notThere, fieldsApart⟩ := List.nodup_cons.mp apart
  obtain ⟨before, behind, rfl⟩ := List.append_of_mem (order.mem_iff.mpr List.mem_cons_self)
  have others : (before ++ behind).Perm (Value.settledFields fields) :=
    (List.perm_middle.symm.trans order).cons_inv
  have none : tag ∉ (before ++ behind).map (·.1) := by
    rw [(others.map _).mem_iff, Value.names_settledFields, fit.names]
    exact notThere
  rw [List.map_append, List.mem_append, not_or] at none
  have isKnown : (variants.map (·.name)).contains name = true := by
    have named := List.find?_some here
    rw [List.contains_iff_mem, ← beq_iff_eq.mp named]
    exact List.mem_map_of_mem (List.mem_of_find?_eq_some here)
  have found := takeEntries_of_tag isKnown none.1 none.2 []
  have taken : (tagged expected tag variants).fromValue
      (.object (before ++ (tag, .text name) :: behind)) =
        takeTagged tag variants name (.object (before ++ behind)) := by
    unfold tagged
    dsimp only
    rw [found]
    rfl
  rw [taken, takeTagged_of_fit here fit fieldsApart others, Value.readBack, Value.isFinite_object]
  rfl

end Tags

end Shape

end ReleasePlayer.Json
