/-
This file says what is known of settings that were accepted, from attributes or from an object. They are in
their normal form, which a second pass leaves as it is; and all their numbers are finite, the loudness as
that is checked, the times of tracks as no document says any others.
-/

import ReleasePlayer.Config.Attributes
import ReleasePlayer.Proofs.Config.Document
import ReleasePlayer.Proofs.Json.Finite

namespace ReleasePlayer

open Json (Value Shape)

/-! ### The normal form -/

namespace Config

section Normal

variable {α : Type} [Scalar α] {config given : Config α}

/-- Settings in their normal form. -/
structure IsNormal (config : Config α) : Prop where
  valid : config.validate = .ok ()
  closed : config.root.toList.getLast? = some '/'
  releaseSlug : ∀ slug ∈ config.releaseSlug, slug ≠ ""
  overrideSlug : ∀ slug ∈ config.overrideSlug, slug ≠ ""

theorem getLast?_closedRoot (root : String) : (closedRoot root).toList.getLast? = some '/' := by
  unfold closedRoot
  split
  · assumption
  · rw [String.toList_append]
    exact List.getLast?_concat

theorem closedRoot_of_closed {root : String} (closed : root.toList.getLast? = some '/') :
    closedRoot root = root := if_pos closed

theorem ne_empty_of_mem_slug? {slug : Option String} : ∀ text ∈ slug? slug, text ≠ "" := by
  intro text kept empty
  obtain ⟨-, notEmpty⟩ := Option.filter_eq_some_iff.mp kept
  rw [empty] at notEmpty
  cases notEmpty

theorem slug?_of_ne_empty {slug : Option String} (notEmpty : ∀ text ∈ slug, text ≠ "") :
    slug? slug = slug := by
  cases slug with
  | none => rfl
  | some text =>
    refine Option.filter_some_pos ?_
    rw [Bool.not_eq_true', ← Bool.not_eq_true, String.isEmpty_iff]
    exact notEmpty text rfl

theorem normalize_eq_ok (normalized : given.normalize = .ok config) :
    config = given.normal ∧ config.validate = .ok () := by
  unfold normalize at normalized
  cases valid : given.normal.validate with
  | error error =>
    rw [valid] at normalized
    cases normalized
  | ok checked =>
    rw [valid] at normalized
    obtain rfl := Except.ok.inj normalized
    exact ⟨rfl, valid⟩

/-- What normalizing gives is in the normal form. -/
theorem isNormal_of_normalize (normalized : given.normalize = .ok config) : config.IsNormal := by
  obtain ⟨rfl, valid⟩ := normalize_eq_ok normalized
  exact ⟨valid, getLast?_closedRoot _, ne_empty_of_mem_slug?, ne_empty_of_mem_slug?⟩

theorem IsNormal.normal (isNormal : config.IsNormal) : config.normal = config := by
  unfold Config.normal
  rw [closedRoot_of_closed isNormal.closed, slug?_of_ne_empty isNormal.releaseSlug,
    slug?_of_ne_empty isNormal.overrideSlug]

/-- Normalizing leaves the normal form as it is. -/
theorem IsNormal.normalize (isNormal : config.IsNormal) : config.normalize = .ok config := by
  unfold Config.normalize
  rw [isNormal.normal, isNormal.valid]
  rfl

theorem isFinite_of_valid (valid : config.validate = .ok ()) :
    ∀ x ∈ config.loudness, Scalar.isFinite x = true := by
  intro x measured
  unfold validate at valid
  split at valid
  · cases valid
  · rw [show config.loudness = some x from measured] at valid
    dsimp only at valid
    by_contra infinite
    rw [if_neg infinite] at valid
    cases valid

end Normal

end Config

/-! ### Finite numbers -/

theorem eq_list_of_listOf? {β : Type} {toValue : β → Value} {take : Value → Option β}
    (back : ∀ value item, take value = some item → value = toValue item) {value : Value}
    {items : List β} (taken : value.listOf? take = some items) :
    value = .list (items.map toValue) := by
  cases value with
  | list values =>
    refine congrArg Value.list ?_
    replace taken : values.mapM take = some items := taken
    induction values generalizing items with
    | nil =>
      obtain rfl := Option.some.inj taken
      rfl
    | cons value more inductionHypothesis =>
      rw [List.mapM_cons] at taken
      obtain ⟨item, first, taken⟩ := Option.bind_eq_some_iff.mp taken
      obtain ⟨others, rest, taken⟩ := Option.bind_eq_some_iff.mp taken
      obtain rfl := Option.some.inj taken
      exact List.cons_eq_cons.mpr ⟨back value item first, inductionHypothesis rest⟩
  | _ => cases taken

namespace TrackEntry

theorem eq_toValue {value : Value} {entry : TrackEntry Float}
    (taken : ofValue? value = some entry) : value = entry.toValue := by
  unfold ofValue? at taken
  split at taken
  · obtain rfl := Option.some.inj taken
    rfl
  · cases taken

theorem saysFinite_shape : shape.SaysFinite := by
  refine Shape.saysFinite_record _ ?_
  simp only [fields, List.forall_mem_cons]
  exact ⟨Shape.saysFinite_text.field _, Shape.saysFinite_text.field _,
    Shape.saysFinite_text.filledWith _ rfl, Shape.saysFinite_real.field _,
    Shape.saysFinite_real.field _, nofun⟩

/-- Tracks that are taken from a value with finite numbers have finite times. -/
theorem isFinite_of_listOf? {value : Value} {tracks : List (TrackEntry Float)}
    (finite : value.isFinite = true) (taken : value.listOf? ofValue? = some tracks) :
    ∀ entry ∈ tracks, ∀ x ∈ entry.numbers, x.isFinite = true := by
  intro entry member
  rw [eq_list_of_listOf? (fun _ _ => eq_toValue) taken, isFinite_list] at finite
  exact List.all_eq_true.mp (List.all_eq_true.mp finite entry member)

end TrackEntry

theorem StreamFormat.saysFinite_shape : shape.SaysFinite := by
  refine Shape.saysFinite_record _ ?_
  simp only [fields, List.forall_mem_cons]
  exact ⟨Shape.saysFinite_text.field _, Shape.saysFinite_text.field _, nofun⟩

namespace Config

variable {config : Config Float}

/-- All numbers of settings. -/
def numbers (config : Config Float) : List Float :=
  config.loudness.toList ++ config.tracks.flatMap TrackEntry.numbers

theorem saysFinite_shape : shape.SaysFinite := by
  have text := Shape.saysFinite_text
  refine Shape.saysFinite_record _ ?_
  simp only [fields, List.forall_mem_cons]
  exact ⟨text.filledWith _ rfl, TrackEntry.saysFinite_shape.list.field _,
    StreamFormat.saysFinite_shape.list.field _, Shape.saysFinite_real.optional.filledWith _ rfl,
    text.optional.filledWith _ rfl, text.optional.filledWith _ rfl,
    Shape.saysFinite_bool.filledWith _ rfl, (Shape.saysFinite_names _).filledWith _ rfl,
    (Shape.saysFinite_names _).filledWith _ rfl, nofun⟩

theorem exists_tracks_of_ofValue? {value : Value} (taken : ofValue? value = some config) :
    ∃ fields tracks, value = .object fields ∧ ("tracks", tracks) ∈ fields ∧
      tracks.listOf? TrackEntry.ofValue? = some config.tracks := by
  unfold ofValue? at taken
  split at taken
  · obtain ⟨tracks, listed, taken⟩ := Option.bind_eq_some_iff.mp taken
    obtain ⟨formats, -, taken⟩ := Option.bind_eq_some_iff.mp taken
    obtain ⟨loudness, -, taken⟩ := Option.bind_eq_some_iff.mp taken
    obtain ⟨releaseSlug, -, taken⟩ := Option.bind_eq_some_iff.mp taken
    obtain ⟨overrideSlug, -, taken⟩ := Option.bind_eq_some_iff.mp taken
    obtain ⟨trialClip, -, taken⟩ := Option.bind_eq_some_iff.mp taken
    obtain ⟨volumeBar, -, taken⟩ := Option.bind_eq_some_iff.mp taken
    obtain rfl := Option.some.inj taken
    exact ⟨_, _, rfl, List.mem_cons_of_mem _ List.mem_cons_self, listed⟩
  · cases taken

/-- Settings that were accepted, in either form. -/
inductive Accepted (config : Config Float) : Prop where
  | attributes (pairs : List (String × String)) (read : ofAttributes pairs = .ok config)
  | document (text : String) (read : ofJson text = .ok config)

/-- What is accepted is the normal form of settings whose tracks have finite times. -/
theorem Accepted.exists_given (accepted : config.Accepted) :
    ∃ given : Config Float, given.normalize = .ok config ∧
      ∀ entry ∈ given.tracks, ∀ x ∈ entry.numbers, x.isFinite = true := by
  cases accepted with
  | attributes pairs read =>
    unfold ofAttributes at read
    obtain ⟨tracks, listed, read⟩ := Json.Shape.except_bind_eq_ok read
    obtain ⟨formats, -, read⟩ := Json.Shape.except_bind_eq_ok read
    obtain ⟨loudness, -, read⟩ := Json.Shape.except_bind_eq_ok read
    obtain ⟨trialClip, -, read⟩ := Json.Shape.except_bind_eq_ok read
    obtain ⟨volumeBar, -, normalized⟩ := Json.Shape.except_bind_eq_ok read
    refine ⟨_, normalized, ?_⟩
    unfold jsonAttribute at listed
    split at listed
    · cases listed
    · split at listed
      · rename_i taken found
        obtain rfl := Except.ok.inj listed
        obtain ⟨value, finite, takes⟩ := TrackEntry.saysFinite_shape.list.exists_of_readAs found
        exact TrackEntry.isFinite_of_listOf? finite takes
      · cases listed
  | document text read =>
    unfold ofJson at read
    split at read
    · rename_i given found
      refine ⟨given, read, ?_⟩
      obtain ⟨value, finite, takes⟩ := saysFinite_shape.exists_of_readAs found
      obtain ⟨fields, tracks, rfl, member, listed⟩ := exists_tracks_of_ofValue? takes
      rw [Value.isFinite_object] at finite
      exact TrackEntry.isFinite_of_listOf? (List.all_eq_true.mp finite _ member) listed
    · cases read

/-- Accepted settings are in their normal form. -/
theorem Accepted.isNormal (accepted : config.Accepted) : config.IsNormal := by
  obtain ⟨given, normalized, -⟩ := accepted.exists_given
  exact isNormal_of_normalize normalized

/-- All numbers of accepted settings are finite. -/
theorem Accepted.isFinite (accepted : config.Accepted) : ∀ x ∈ config.numbers, x.isFinite = true := by
  obtain ⟨given, normalized, times⟩ := accepted.exists_given
  obtain ⟨rfl, valid⟩ := normalize_eq_ok normalized
  refine List.forall_mem_append.mpr ⟨fun x measured => ?_, fun x number => ?_⟩
  · exact isFinite_of_valid valid x (Option.mem_toList.mp measured)
  · obtain ⟨entry, member, number⟩ := List.mem_flatMap.mp number
    exact times entry member x number

end Config

end ReleasePlayer
