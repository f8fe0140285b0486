/-
This file proves that what is written is read again by its shape. A list is read if all its items are,
and a record if all its fields are, in whatever order they stand; one part that is refused is enough
for the whole to be refused.
-/

import ReleasePlayer.Proofs.Json.Number
import ReleasePlayer.Proofs.Json.Text

namespace ReleasePlayer.Json.Shape

open Reader

/-- A shape reads a text, whatever ends it, as a value, or refuses it if there is none. The text goes
so many levels deep. -/
def Reads (shape : Shape) (levels : Nat) (text : List Char) (value : Option Value) : Prop :=
  ∀ depth behind, levels < depth → Ends behind →
    (shape.fromText depth).Yields (text ++ behind) value behind

theorem Reads.deeper {shape : Shape} {levels more : Nat} {text : List Char} {value : Option Value}
    (reads : shape.Reads levels text value) (within : levels ≤ more) :
    shape.Reads more text value :=
  fun depth behind below ends => reads depth behind (Nat.lt_of_le_of_lt within below) ends

/-! ### Plain values -/

theorem writtenText_append (content : String) (behind : List Char) :
    writtenText content ++ behind = '"' :: (content.toList.flatMap escaped ++ '"' :: behind) := by
  unfold writtenText
  rw [List.cons_append, List.append_assoc]
  rfl

theorem reads_text (content : String) :
    text.Reads 0 (writtenText content) (some (.text content)) := by
  intro depth behind _ _
  rw [writtenText_append]
  exact (peekValue_cons rfl _).bind (((text_yields content behind).map Value.text).eat '"')

theorem reads_bool (value : Bool) :
    bool.Reads 0 (Value.bool value).written (some (.bool value)) := by
  intro depth behind _ _
  cases value with
  | true =>
    have word := word_append "rue".toList behind
    exact (peekValue_cons rfl _).bind (Yields.bind (word.eat 't') (yields_pure _ behind))
  | false =>
    have word := word_append "alse".toList behind
    exact (peekValue_cons rfl _).bind (Yields.bind (word.eat 'f') (yields_pure _ behind))

/-- A double without a number is refused. -/
theorem reads_real_none {x : Float} (notFinite : x.isFinite = false) :
    real.Reads 0 (writtenReal x) none := by
  intro depth behind _ _
  unfold writtenReal
  rw [notFinite, if_neg Bool.false_ne_true]
  refine Yields.bind (peekValue_cons rfl _) ?_
  exact mismatch_yields 'n' "f64" _

theorem reads_null (shape : Shape) : (optional shape).Reads 0 Value.null.written (some .null) := by
  intro depth behind _ _
  have word := word_append "ull".toList behind
  exact (peek_cons rfl _).bind (Yields.bind (word.eat 'n') (yields_pure _ behind))

theorem reads_optional {shape : Shape} {levels : Nat} {first : Char} {more : List Char}
    {value : Option Value} (reads : shape.Reads levels (first :: more) value)
    (notBlank : isBlank first = false) (notNull : first ≠ 'n') :
    (optional shape).Reads levels (first :: more) value := by
  intro depth behind below ends
  refine (peek_cons notBlank (more ++ behind)).bind ?_
  split
  · rename_i null
    exact absurd (Option.some.inj null) notNull
  · exact reads depth behind below ends

theorem join_lookup_names (known : List String) (name : String) :
    ((known.map fun name => (name, (none : Option Shape))).lookup name).join = none := by
  induction known with
  | nil => rfl
  | cons other more inductionHypothesis =>
    rw [List.map_cons, List.lookup_cons]
    split
    · rfl
    · exact inductionHypothesis

theorem reads_names {known : List String} {name : String} (member : known.contains name = true) :
    (names known).Reads 0 (writtenText name) (some (.text name)) := by
  intro depth behind _ _
  have all : (known.map fun name => (name, (none : Option Shape))).map (·.1) = known := by
    rw [List.map_map]
    exact List.map_id known
  have variant : (readVariant ((known.map fun name => (name, (none : Option Shape))).map (·.1))).Yields
      (writtenText name ++ behind) (some name) behind := by
    rw [writtenText_append]
    refine (peekValue_cons rfl _).bind (Yields.placed
      (Yields.eat ((text_yields name behind).bind ?_) '"'))
    rw [all, member]
    exact yields_pure name behind
  refine (peekValue_cons rfl _).bind (variant.bind ?_)
  rw [join_lookup_names]
  exact yields_pure _ behind

/-! ### Lists -/

/-- Texts with a comma between them, as the first and the others with a comma before each. -/
theorem intercalate_cons (first : List Char) (more : List (List Char)) :
    [','].intercalate (first :: more) = first ++ more.flatMap (',' :: ·) := by
  induction more generalizing first with
  | nil => rw [List.intercalate_singleton, List.flatMap_nil, List.append_nil]
  | cons next rest inductionHypothesis =>
    rw [List.intercalate_cons_cons, inductionHypothesis, List.flatMap_cons, List.append_assoc]
    rfl

/-- Between texts there is one comma less than there are texts. -/
theorem length_le_intercalate (texts : List (List Char)) :
    texts.length ≤ ([','].intercalate texts).length + 1 := by
  cases texts with
  | nil => exact Nat.zero_le _
  | cons first more =>
    rw [intercalate_cons, List.length_cons, List.length_append]
    have commas : more.length ≤ (more.flatMap (',' :: ·)).length := by
      induction more with
      | nil => exact Nat.le_refl 0
      | cons next rest inductionHypothesis =>
        rw [List.flatMap_cons, List.length_append, List.length_cons, List.length_cons]
        omega
    omega

theorem ends_comma (rest : List Char) : Ends (',' :: rest) := by
  intro c here
  exact Or.inl (Option.some.inj here).symm

theorem ends_listEnd (rest : List Char) : Ends (']' :: rest) := by
  intro c here
  exact Or.inr (Or.inl (Option.some.inj here).symm)

theorem ends_objectEnd (rest : List Char) : Ends ('\x7d' :: rest) := by
  intro c here
  exact Or.inr (Or.inr (Option.some.inj here).symm)

/-- What is written for an item, which starts with a sign of its own, and what is read for it. -/
structure Item where
  first : Char
  more : List Char
  value : Option Value

/-- The text of an item. -/
def Item.text (item : Item) : List Char := item.first :: item.more

/-- An item is read as it should be, up to a given depth. -/
structure Item.Good (shape : Shape) (levels : Nat) (item : Item) : Prop where
  notBlank : isBlank item.first = false
  notEnd : item.first ≠ ']'
  reads : shape.Reads levels item.text item.value

theorem ends_items (list : List Item) (rest : List Char) :
    Ends (list.flatMap (fun item => ',' :: item.text) ++ ']' :: rest) := by
  cases list with
  | nil => exact ends_listEnd rest
  | cons item list => exact ends_comma _

section Lists

variable {shape : Shape} {levels depth : Nat}

/-- The items behind the first one. -/
theorem items_next (below : levels < depth) (rest : List Char) {list : List Item}
    (good : ∀ item ∈ list, item.Good shape levels) :
    ∀ count, list.length < count →
      (items (shape.fromText depth) count false).Yields
        (list.flatMap (fun item => ',' :: item.text) ++ ']' :: rest)
        (list.mapM Item.value) (']' :: rest) := by
  induction list with
  | nil =>
    intro count enough
    obtain ⟨more, rfl⟩ : ∃ more, count = more + 1 := ⟨count - 1, by omega⟩
    exact (hasItem_end false rest).bind (yields_pure [] _)
  | cons item list inductionHypothesis =>
    intro count enough
    obtain ⟨more, rfl⟩ : ∃ more, count = more + 1 := ⟨count - 1, by omega⟩
    obtain ⟨notBlank, notEnd, reads⟩ := good item List.mem_cons_self
    have others := inductionHypothesis (fun other member =>
      good other (List.mem_cons_of_mem item member)) more (by rw [List.length_cons] at enough; omega)
    rw [List.flatMap_cons, List.append_assoc, List.mapM_cons]
    refine (hasItem_next notBlank notEnd _).bind ?_
    exact (reads depth _ below (ends_items list rest)).andThen fun value _ =>
      others.andThen fun values _ => yields_pure (value :: values) _

theorem items_first (below : levels < depth) (rest : List Char) {list : List Item}
    (good : ∀ item ∈ list, item.Good shape levels) {count : Nat} (enough : list.length < count) :
    (items (shape.fromText depth) count true).Yields
      ([','].intercalate (list.map Item.text) ++ ']' :: rest) (list.mapM Item.value)
      (']' :: rest) := by
  obtain ⟨more, rfl⟩ : ∃ more, count = more + 1 := ⟨count - 1, by omega⟩
  cases list with
  | nil => exact (hasItem_end true rest).bind (yields_pure [] _)
  | cons item list =>
    obtain ⟨notBlank, notEnd, reads⟩ := good item List.mem_cons_self
    have others := items_next below rest (fun other member =>
      good other (List.mem_cons_of_mem item member)) more (by rw [List.length_cons] at enough; omega)
    rw [List.map_cons, intercalate_cons, List.flatMap_map, List.append_assoc, List.mapM_cons]
    refine (hasItem_first notBlank notEnd _).bind ?_
    exact (reads depth _ below (ends_items list rest)).andThen fun value _ =>
      others.andThen fun values _ => yields_pure (value :: values) _

/-- A list is read if every item is. -/
theorem reads_list {list : List Item} (good : ∀ item ∈ list, item.Good shape levels) :
    (Shape.list shape).Reads (levels + 1)
      ('[' :: ([','].intercalate (list.map Item.text) ++ [']']))
      ((list.mapM Item.value).map Value.list) := by
  intro depth behind below ends
  have enough := length_le_intercalate (list.map Item.text)
  rw [List.length_map] at enough
  rw [List.cons_append, List.append_assoc, Option.map_eq_bind]
  refine (peekValue_cons rfl _).bind (Yields.placed (Yields.deeper (by omega) ?_ '['))
  refine (bound_yields _).bind (Yields.andThen (Yields.enclosed (items_first (by omega) behind good ?_)
    (listEnd_cons behind)) fun values _ => yields_pure (Value.list values) behind)
  rw [List.length_append, List.length_append, List.length_singleton]
  omega

end Lists

/-! ### Records -/

/-- What is written for a field, and what is read for it. -/
structure Entry where
  name : String
  content : List Char
  value : Option Value

namespace Entry

/-- The text of a field. -/
def text (entry : Entry) : List Char := writtenText entry.name ++ ':' :: entry.content

theorem text_append (entry : Entry) (behind : List Char) :
    entry.text ++ behind =
      '"' :: (entry.name.toList.flatMap escaped ++ '"' :: ':' :: (entry.content ++ behind)) := by
  unfold text
  rw [List.append_assoc, writtenText_append]
  rfl

/-- The value of a field under its name. -/
def pair (entry : Entry) : Option (String × Value) := entry.value.map fun value => (entry.name, value)

/-- A field that a record knows is read as it should be, up to a given depth. -/
def Good (fields : List Field) (levels : Nat) (entry : Entry) : Prop :=
  ∃ field, fields.find? (·.name == entry.name) = some field ∧
    field.shape.Reads levels entry.content entry.value

/-- The fields read so far, with those of further entries before them. -/
def pairs (entries : List Entry) (found : List (String × Value)) :
    Option (List (String × Value)) :=
  (entries.mapM pair).map fun pairs => pairs.reverse ++ found

theorem pairs_cons (entry : Entry) (entries : List Entry) (found : List (String × Value)) :
    pairs (entry :: entries) found =
      entry.value.bind fun value => pairs entries ((entry.name, value) :: found) := by
  have first : entry.pair = entry.value.map fun value => (entry.name, value) := rfl
  unfold pairs
  rw [List.mapM_cons, first]
  cases entry.value with
  | none => rfl
  | some value => cases entries.mapM pair <;> simp

theorem ends_entries (entries : List Entry) (rest : List Char) :
    Ends (entries.flatMap (fun entry => ',' :: entry.text) ++ '\x7d' :: rest) := by
  cases entries with
  | nil => exact ends_objectEnd rest
  | cons entry entries => exact ends_comma _

end Entry

section Records

variable {fields : List Field} {levels depth : Nat}

/-- A field is read behind the quote that opens its name, and then the others. -/
theorem readNamed_entry (below : levels < depth) {entry : Entry}
    (good : entry.Good fields levels) {found : List (String × Value)}
    (isNew : found.any (·.1 == entry.name) = false) {isFirst : Bool} {text behind rest : List Char}
    (opens : (hasKey isFirst).Yields text (some true)
      (entry.name.toList.flatMap escaped ++ '"' :: ':' :: (entry.content ++ behind)))
    (ends : Ends behind) {more : Nat} {answer : Value → Option (List (String × Value))}
    (others : ∀ value, (readNamed fields depth more false ((entry.name, value) :: found)).Yields
      behind (answer value) rest) :
    (readNamed fields depth (more + 1) isFirst found).Yields text (entry.value.bind answer) rest := by
  obtain ⟨field, known, reads⟩ := good
  refine opens.bind ((text_yields entry.name _).bind ?_)
  rw [known]
  dsimp only
  rw [isNew]
  refine (colon_cons _).bind ?_
  exact (reads depth behind below ends).andThen fun value _ => others value

/-- The fields behind the first one. -/
theorem readNamed_next (below : levels < depth) (rest : List Char) {entries : List Entry} :
    ∀ (count : Nat) (found : List (String × Value)), entries.length < count →
      (∀ entry ∈ entries, entry.Good fields levels) → (entries.map Entry.name).Nodup →
      (∀ entry ∈ entries, found.any (·.1 == entry.name) = false) →
        (readNamed fields depth count false found).Yields
          (entries.flatMap (fun entry => ',' :: entry.text) ++ '\x7d' :: rest)
          (Entry.pairs entries found) ('\x7d' :: rest) := by
  induction entries with
  | nil =>
    intro count found enough _ _ _
    obtain ⟨more, rfl⟩ : ∃ more, count = more + 1 := ⟨count - 1, by omega⟩
    exact (hasKey_end false rest).bind (yields_pure found _)
  | cons entry entries inductionHypothesis =>
    intro count found enough good apart isNew
    obtain ⟨more, rfl⟩ : ∃ more, count = more + 1 := ⟨count - 1, by omega⟩
    have inOthers (other : Entry) (member : other ∈ entries) : other ∈ entry :: entries :=
      List.mem_cons_of_mem entry member
    obtain ⟨notThere, apart⟩ := List.nodup_cons.mp apart
    rw [List.flatMap_cons, List.cons_append, List.cons_append, List.append_assoc,
      Entry.text_append, Entry.pairs_cons]
    refine readNamed_entry below (good entry List.mem_cons_self) (isNew entry List.mem_cons_self)
      (hasKey_next _) (Entry.ends_entries entries rest) fun value => inductionHypothesis more _
        (by rw [List.length_cons] at enough; omega)
        (fun other member => good other (inOthers other member)) apart fun other member => ?_
    have unlike : (entry.name == other.name) = false := beq_false_of_ne fun same =>
      notThere (same ▸ List.mem_map_of_mem member)
    rw [List.any_cons, unlike, isNew other (inOthers other member)]
    rfl

theorem readNamed_first (below : levels < depth) (rest : List Char) {entries : List Entry}
    {count : Nat} (enough : entries.length < count)
    (good : ∀ entry ∈ entries, entry.Good fields levels) (apart : (entries.map Entry.name).Nodup) :
    (readNamed fields depth count true []).Yields
      ([','].intercalate (entries.map Entry.text) ++ '\x7d' :: rest) (Entry.pairs entries [])
      ('\x7d' :: rest) := by
  obtain ⟨more, rfl⟩ : ∃ more, count = more + 1 := ⟨count - 1, by omega⟩
  cases entries with
  | nil => exact (hasKey_end true rest).bind (yields_pure [] _)
  | cons entry entries =>
    obtain ⟨notThere, apart⟩ := List.nodup_cons.mp apart
    rw [List.map_cons, intercalate_cons, List.flatMap_map, List.append_assoc, Entry.text_append,
      Entry.pairs_cons]
    refine readNamed_entry below (good entry List.mem_cons_self) rfl (hasKey_first _)
      (Entry.ends_entries entries rest) fun value => readNamed_next below rest more _
        (by rw [List.length_cons] at enough; omega)
        (fun other member => good other (List.mem_cons_of_mem entry member)) apart
        fun other member => ?_
    have unlike : (entry.name == other.name) = false := beq_false_of_ne fun same =>
      notThere (same ▸ List.mem_map_of_mem member)
    rw [List.any_cons, unlike]
    rfl

theorem yields_lift {β : Type} (given : Except Fault β) (text : List Char) :
    (lift given).Yields text given.toOption text := by
  cases given with
  | error fault => exact ⟨fault, text, rfl⟩
  | ok value => exact yields_pure value text

/-- A record is read if every field is, in whatever order they are, and none is missing. -/
theorem reads_record {expected : String} {entries : List Entry}
    (good : ∀ entry ∈ entries, entry.Good fields levels) (apart : (entries.map Entry.name).Nodup) :
    (record expected fields).Reads (levels + 1)
      ('\x7b' :: ([','].intercalate (entries.map Entry.text) ++ ['\x7d']))
      ((Entry.pairs entries []).bind fun pairs =>
        (arrange fields pairs).toOption.map Value.object) := by
  intro depth behind below ends
  have enough := length_le_intercalate (entries.map Entry.text)
  rw [List.length_map] at enough
  rw [List.cons_append, List.append_assoc]
  refine (peekValue_cons rfl _).bind (Yields.placed (Yields.deeper (by omega) ?_ '\x7b'))
  refine (bound_yields _).bind ?_
  have body : Yields (do
      lift (arrange fields (← readNamed fields (depth - 1)
        (([','].intercalate (entries.map Entry.text) ++ (['\x7d'] ++ behind)).length + 1) true [])))
      ([','].intercalate (entries.map Entry.text) ++ (['\x7d'] ++ behind))
      ((Entry.pairs entries []).bind fun pairs => (arrange fields pairs).toOption)
      ('\x7d' :: behind) := by
    refine (readNamed_first (by omega) behind ?_ good apart).andThen fun pairs _ =>
      yields_lift (arrange fields pairs) _
    rw [List.length_append, List.length_append, List.length_singleton]
    omega
  have closed := (body.enclosed (objectEnd_cons behind)).map Value.object
  rw [Option.map_bind] at closed
  exact closed

end Records

/-! ### Fields in their order -/

section Arrange

variable {known : List Field} {field : Field} {found entries : List (String × Value)}

theorem arrange_found {entry : String × Value}
    (here : found.find? (·.1 == field.name) = some entry)
    (others : arrange known found = .ok entries) :
    arrange (field :: known) found = .ok (entry :: entries) := by
  unfold arrange at others ⊢
  rw [List.mapM_cons, here, others]
  rfl

theorem arrange_filled {β : Type} {toValue : β → Value} {setting : Option β} {default : Value}
    (filled : field.absence = .filled default)
    (here : found.find? (·.1 == field.name) = setting.map fun value => (field.name, toValue value))
    (others : arrange known found = .ok entries) :
    arrange (field :: known) found =
      .ok ((field.name, (setting.map toValue).getD default) :: entries) := by
  cases setting with
  | some value => exact arrange_found here others
  | none =>
    have missing : field.missing = .ok (field.name, default) := by
      unfold Field.missing
      rw [filled]
    unfold arrange at others ⊢
    rw [List.mapM_cons, here, others]
    show (field.missing >>= _) = _
    rw [missing]
    rfl

end Arrange

end ReleasePlayer.Json.Shape
