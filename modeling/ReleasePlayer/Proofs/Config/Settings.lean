/-
This file writes settings onto a page, in either of the two forms in which a page can carry them, and
proves that they come back from the one object that carries them all, whatever the order of its fields
and whichever of the optional ones are left out. Both forms carry the same values under the same names;
what is not set is left out.
-/

import Mathlib.Data.List.Perm.Basic
import ReleasePlayer.Config.Attributes
import ReleasePlayer.Proofs.Config.Document

namespace ReleasePlayer

open Json (Value Shape)
open Json.Shape (arrange)

/-! ### What a page carries -/

/-- Settings as they are given, before a page carries them. -/
structure Settings where
  tracks : List (TrackEntry Float)
  formats : List StreamFormat
  loudness : Option Float
  root : Option String
  releaseSlug : Option String
  overrideSlug : Option String
  hideTitle : Bool
  trialClip : Option TrialClip
  volumeBar : Option BarAxis

namespace Settings

/-- A value under a name, if there is one. -/
def optional {β : Type} (name : String) (toValue : β → Value) (setting : Option β) :
    List (String × Value) :=
  (setting.map fun value => (name, toValue value)).toList

/-- The values that are given, by their names. -/
def named (settings : Settings) : List (String × Value) :=
  optional "root" .text settings.root ++
    [("tracks", .list (settings.tracks.map TrackEntry.toValue)),
      ("formats", .list (settings.formats.map StreamFormat.toValue))] ++
    optional "loudness" .real settings.loudness ++
    optional "releaseSlug" .text settings.releaseSlug ++
    optional "overrideSlug" .text settings.overrideSlug ++
    [("hideTitle", .bool settings.hideTitle)] ++
    optional "trialClip" (fun clip => .text clip.name) settings.trialClip ++
    optional "volumeBar" (fun axis => .text axis.name) settings.volumeBar

/-- A value as the text of an attribute: a text as it is, a number in plain digits, and lists as
documents. -/
def attributeText : Value → String
  | .text content => content
  | .real number => Double.text number
  | value => value.document

/-- Values by their names as the attributes of a page. -/
def attributes (values : List (String × Value)) : List (String × String) :=
  values.map fun entry => (entry.1, attributeText entry.2)

/-- Values by their names as one object. -/
def document (values : List (String × Value)) : String := (Value.object values).document

end Settings

/-! ### Values by their names -/

section Names

variable {entries others : List (String × Value)}

/-- Where names are distinct, what stands under a name is what is found under it. -/
theorem find?_eq_some_iff_mem (apart : (entries.map (·.1)).Nodup) {name : String}
    {entry : String × Value} :
    entries.find? (·.1 == name) = some entry ↔ entry ∈ entries ∧ entry.1 = name := by
  induction entries with
  | nil => exact ⟨nofun, fun found => nomatch found.1⟩
  | cons first more inductionHypothesis =>
    obtain ⟨notThere, apart⟩ := List.nodup_cons.mp apart
    rw [List.find?_cons, List.mem_cons]
    by_cases same : first.1 = name
    · rw [beq_iff_eq.mpr same]
      refine ⟨fun found => ?_, fun found => ?_⟩
      · obtain rfl := Option.some.inj found
        exact ⟨Or.inl rfl, same⟩
      · obtain ⟨rfl | member, named⟩ := found
        · rfl
        · have there : entry.1 ∈ more.map (·.1) := List.mem_map_of_mem member
          rw [named, ← same] at there
          exact absurd there notThere
    · rw [beq_false_of_ne same]
      refine (inductionHypothesis apart).trans (and_congr_left fun named => ?_)
      refine ⟨Or.inr, fun found => found.resolve_left ?_⟩
      rintro rfl
      exact same named

/-- The order of distinct names does not matter. -/
theorem find?_eq_of_perm (apart : (entries.map (·.1)).Nodup) (same : others.Perm entries)
    (name : String) :
    others.find? (·.1 == name) = entries.find? (·.1 == name) := by
  have othersApart : (others.map (·.1)).Nodup := (same.map _).nodup_iff.mpr apart
  refine Option.ext fun entry => ?_
  rw [find?_eq_some_iff_mem othersApart, find?_eq_some_iff_mem apart, same.mem_iff]

end Names

/-! ### The value of settings -/

theorem TrialClip.ofValue?_name (clip : TrialClip) : ofValue? (.text clip.name) = some clip := by
  cases clip <;> rfl

theorem BarAxis.ofValue?_name (axis : BarAxis) : ofValue? (.text axis.name) = some axis := by
  cases axis <;> rfl

theorem TrialClip.reads_name (clip : TrialClip) :
    shape.Reads 0 (Value.text clip.name).written (some (.text clip.name)) :=
  Shape.reads_names (by cases clip <;> rfl)

theorem BarAxis.reads_name (axis : BarAxis) :
    shape.Reads 0 (Value.text axis.name).written (some (.text axis.name)) :=
  Shape.reads_names (by cases axis <;> rfl)

namespace Config

/-- The value of settings says just those settings. -/
theorem ofValue?_toValue (config : Config Float) : ofValue? config.toValue = some config := by
  have loudness : (Value.ofOption .real config.loudness).optional? Value.real? =
      some config.loudness := by
    cases config.loudness <;> rfl
  have slug (slug : Option String) :
      (Value.ofOption .text slug).optional? Value.text? = some slug := by
    cases slug <;> rfl
  show (do
    return {
      root := config.root
      tracks := ← (Value.list (config.tracks.map TrackEntry.toValue)).listOf? TrackEntry.ofValue?
      formats := ← (Value.list (config.formats.map StreamFormat.toValue)).listOf?
        StreamFormat.ofValue?
      loudness := ← (Value.ofOption .real config.loudness).optional? Value.real?
      releaseSlug := ← (Value.ofOption .text config.releaseSlug).optional? Value.text?
      overrideSlug := ← (Value.ofOption .text config.overrideSlug).optional? Value.text?
      hideTitle := config.hideTitle
      trialClip := ← TrialClip.ofValue? (.text config.trialClip.name)
      volumeBar := ← BarAxis.ofValue? (.text config.volumeBar.name) }) = some config
  rw [listOf?_map TrackEntry.ofValue?_toValue, listOf?_map StreamFormat.ofValue?_toValue, loudness,
    slug, slug, TrialClip.ofValue?_name, BarAxis.ofValue?_name]
  rfl

end Config

namespace Settings

variable (settings : Settings) {values : List (String × Value)}

/-- The settings of a player, with what stands for those that are not given. -/
def config : Config Float where
  root := settings.root.getD "/"
  tracks := settings.tracks
  formats := settings.formats
  loudness := settings.loudness
  releaseSlug := settings.releaseSlug
  overrideSlug := settings.overrideSlug
  hideTitle := settings.hideTitle
  trialClip := settings.trialClip.getD .silence
  volumeBar := settings.volumeBar.getD .vertical

/-- All numbers of settings. -/
def numbers : List Float := settings.loudness.toList ++ settings.tracks.flatMap TrackEntry.numbers

/-- Whether all numbers of the tracks are finite. -/
def tracksAreFinite : Bool := settings.tracks.all fun entry => entry.numbers.all Float.isFinite

/-! ### What is given, by its name -/

section Optional

variable {β : Type} (name : String) (toValue : β → Value) (setting : Option β)

theorem find?_optional (other : String) :
    (optional name toValue setting).find? (·.1 == other) =
      if name = other then setting.map fun value => (name, toValue value) else none := by
  cases setting with
  | none => exact (ite_self none).symm
  | some value =>
    show [(name, toValue value)].find? _ = _
    rw [List.find?_singleton]
    by_cases same : name = other
    · rw [if_pos (beq_iff_eq.mpr same), if_pos same]
      rfl
    · rw [if_neg fun equal => same (beq_iff_eq.mp equal), if_neg same]

theorem forall_mem_optional {P : String × Value → Prop} :
    (∀ entry ∈ optional name toValue setting, P entry) ↔ ∀ value ∈ setting, P (name, toValue value) := by
  cases setting with
  | none => exact ⟨fun _ => nofun, fun _ => nofun⟩
  | some value =>
    refine List.forall_mem_singleton.trans ⟨fun holds => ?_, fun holds => holds value rfl⟩
    rintro other ⟨⟩
    exact holds

theorem sublist_optional : ((optional name toValue setting).map (·.1)).Sublist [name] := by
  cases setting with
  | none => exact List.nil_sublist _
  | some value => exact List.Sublist.refl _

theorem all_optional {p : String × Value → Bool} :
    (optional name toValue setting).all p = setting.all fun value => p (name, toValue value) := by
  cases setting with
  | none => rfl
  | some value => exact Bool.and_true _

end Optional

theorem apart_named : (settings.named.map (·.1)).Nodup := by
  have names : ["root", "tracks", "formats", "loudness", "releaseSlug", "overrideSlug", "hideTitle",
      "trialClip", "volumeBar"].Nodup := by decide
  refine List.Nodup.sublist ?_ names
  have tracks := (sublist_optional "root" Value.text settings.root).append
    (List.Sublist.refl ["tracks", "formats"])
  have slugs := ((tracks.append (sublist_optional "loudness" Value.real settings.loudness)).append
    (sublist_optional "releaseSlug" Value.text settings.releaseSlug)).append
    (sublist_optional "overrideSlug" Value.text settings.overrideSlug)
  have choices := ((slugs.append (List.Sublist.refl ["hideTitle"])).append
    (sublist_optional "trialClip" (fun clip => Value.text clip.name) settings.trialClip)).append
    (sublist_optional "volumeBar" (fun axis => Value.text axis.name) settings.volumeBar)
  simp only [named, List.map_append]
  exact choices

/-- Values stand for settings: under the name of each setting is found what was given. -/
structure Listed (values : List (String × Value)) : Prop where
  apart : (values.map (·.1)).Nodup
  root : values.find? (·.1 == "root") = settings.root.map fun root => ("root", .text root)
  tracks : values.find? (·.1 == "tracks") =
    some ("tracks", .list (settings.tracks.map TrackEntry.toValue))
  formats : values.find? (·.1 == "formats") =
    some ("formats", .list (settings.formats.map StreamFormat.toValue))
  loudness : values.find? (·.1 == "loudness") =
    settings.loudness.map fun loudness => ("loudness", .real loudness)
  releaseSlug : values.find? (·.1 == "releaseSlug") =
    settings.releaseSlug.map fun slug => ("releaseSlug", .text slug)
  overrideSlug : values.find? (·.1 == "overrideSlug") =
    settings.overrideSlug.map fun slug => ("overrideSlug", .text slug)
  hideTitle : values.find? (·.1 == "hideTitle") = some ("hideTitle", .bool settings.hideTitle)
  trialClip : values.find? (·.1 == "trialClip") =
    settings.trialClip.map fun clip => ("trialClip", .text clip.name)
  volumeBar : values.find? (·.1 == "volumeBar") =
    settings.volumeBar.map fun axis => ("volumeBar", .text axis.name)

/-- The order in which settings are listed does not matter. -/
theorem listed_of_perm (same : values.Perm settings.named) : settings.Listed values := by
  have found (name : String) := find?_eq_of_perm settings.apart_named same name
  constructor
  · exact (same.map _).nodup_iff.mpr settings.apart_named
  all_goals
    rw [found]
    simp [named, List.find?_append, find?_optional]

/-! ### One object -/

variable {settings}

/-- With what stands for those that are not given, the values are those of the settings. -/
theorem arrange_fields (listed : settings.Listed values) :
    ∃ fields, arrange Config.fields values = .ok fields ∧
      Value.object fields = settings.config.toValue := by
  have orNull {β : Type} (toValue : β → Value) (setting : Option β) :
      (setting.map toValue).getD .null = Value.ofOption toValue setting := by
    cases setting <;> rfl
  have root : (settings.root.map Value.text).getD (.text "/") = .text (settings.root.getD "/") :=
    Option.getD_map _ _ _
  have clip : (settings.trialClip.map fun clip => Value.text clip.name).getD (.text "silence") =
      .text (settings.trialClip.getD .silence).name :=
    Option.getD_map (fun clip => Value.text clip.name) TrialClip.silence _
  have axis : (settings.volumeBar.map fun axis => Value.text axis.name).getD (.text "vertical") =
      .text (settings.volumeBar.getD .vertical).name :=
    Option.getD_map (fun axis => Value.text axis.name) BarAxis.vertical _
  have none : arrange [] values = .ok [] := rfl
  refine ⟨_, Shape.arrange_filled rfl listed.root (Shape.arrange_found listed.tracks
    (Shape.arrange_found listed.formats (Shape.arrange_filled rfl listed.loudness
    (Shape.arrange_filled rfl listed.releaseSlug (Shape.arrange_filled rfl listed.overrideSlug
    (Shape.arrange_found listed.hideTitle (Shape.arrange_filled rfl listed.trialClip
    (Shape.arrange_filled rfl listed.volumeBar none)))))))), ?_⟩
  rw [root, orNull, orNull, orNull, clip, axis]
  rfl

theorem reads_tracks (readsBack : ∀ x ∈ settings.numbers, x.isFinite = true → Double.ReadsBack x) :
    (Shape.list TrackEntry.shape).Reads 2
      (Value.list (settings.tracks.map TrackEntry.toValue)).written
      (Value.list (settings.tracks.map TrackEntry.toValue)).readBack :=
  TrackEntry.reads_list fun entry member x number =>
    readsBack x (List.mem_append_right _ (List.mem_flatMap.mpr ⟨entry, member, number⟩))

/-- Every value that stands for a setting is read as that value. -/
theorem reads_named (finite : ∀ x ∈ settings.loudness, x.isFinite = true)
    (readsBack : ∀ x ∈ settings.numbers, x.isFinite = true → Double.ReadsBack x) :
    ∀ entry ∈ settings.named, ∃ field, Config.fields.find? (·.name == entry.1) = some field ∧
      field.shape.Reads 2 entry.2.written entry.2.readBack := by
  have tracks := reads_tracks readsBack
  have loudness (x : Float) (given : x ∈ settings.loudness) :
      (Shape.optional .real).Reads 2 (Value.real x).written (Value.real x).readBack := by
    have back := readsBack x (List.mem_append_left _ (Option.mem_toList.mpr given)) (finite x given)
    have known : (Value.real x).readBack = some (.real x) := if_pos (finite x given)
    rw [known]
    exact (Shape.reads_optional_real (finite x given) back).deeper (Nat.zero_le 2)
  have text (content : String) := (Shape.reads_text content).deeper (Nat.zero_le 2)
  have slug (content : String) := (Shape.reads_optional_text content).deeper (Nat.zero_le 2)
  have hidden := (Shape.reads_bool settings.hideTitle).deeper (Nat.zero_le 2)
  have clip (clip : TrialClip) := clip.reads_name.deeper (Nat.zero_le 2)
  have axis (axis : BarAxis) := axis.reads_name.deeper (Nat.zero_le 2)
  simp only [named, List.forall_mem_append, List.forall_mem_cons, forall_mem_optional,
    List.not_mem_nil, false_implies, implies_true, and_true]
  exact ⟨⟨⟨⟨⟨⟨⟨fun root _ => ⟨_, rfl, text root⟩, ⟨_, rfl, tracks⟩,
    ⟨_, rfl, StreamFormat.reads_list settings.formats⟩⟩,
    fun x given => ⟨_, rfl, loudness x given⟩⟩, fun name _ => ⟨_, rfl, slug name⟩⟩,
    fun name _ => ⟨_, rfl, slug name⟩⟩, ⟨_, rfl, hidden⟩⟩, fun item _ => ⟨_, rfl, clip item⟩⟩,
    fun item _ => ⟨_, rfl, axis item⟩⟩

theorem isFinite_tracks : (Value.list (settings.tracks.map TrackEntry.toValue)).isFinite =
    settings.tracksAreFinite := TrackEntry.isFinite_list settings.tracks

/-- Nothing but the tracks can keep settings from being read. -/
theorem isFinite_object (finite : ∀ x ∈ settings.loudness, x.isFinite = true)
    (same : values.Perm settings.named) :
    (Value.object values).isFinite = settings.tracksAreFinite := by
  have loudness : (settings.loudness.all fun x => (Value.real x).isFinite) = true := by
    cases given : settings.loudness with
    | none => rfl
    | some x => exact finite x given
  have all {β : Type} (setting : Option β) : (setting.all fun _ => true) = true := by
    cases setting <;> rfl
  have plain (content : String) : (Value.text content).isFinite = true := rfl
  have hidden : (Value.bool settings.hideTitle).isFinite = true := rfl
  rw [Value.isFinite_object, same.all_eq]
  simp only [named, List.all_append, List.all_cons, List.all_nil, all_optional, isFinite_tracks,
    StreamFormat.isFinite_list, loudness, plain, hidden, all, Bool.and_true, Bool.true_and]

/-- One object comes back as the settings, unless a track has a number that is not finite. -/
theorem reads_config (finite : ∀ x ∈ settings.loudness, x.isFinite = true)
    (readsBack : ∀ x ∈ settings.numbers, x.isFinite = true → Double.ReadsBack x)
    (same : values.Perm settings.named) :
    Config.shape.Reads 3 (Value.object values).written
      (if settings.tracksAreFinite then some settings.config.toValue else none) := by
  have listed : settings.Listed values.reverse :=
    settings.listed_of_perm ((List.reverse_perm values).trans same)
  obtain ⟨fields, arranged, value⟩ := arrange_fields listed
  have reads := Shape.reads_object "struct PlayerConfig" (fun entry member =>
    reads_named finite readsBack entry (same.mem_iff.mp member)) (settings.listed_of_perm same).apart
  have outcome : ((Value.object values).readBack.bind fun _ =>
      (arrange Config.fields values.reverse).toOption.map Value.object) =
        if settings.tracksAreFinite then some settings.config.toValue else none := by
    rw [arranged, ← value, Value.readBack, isFinite_object finite same]
    cases settings.tracksAreFinite <;> rfl
  rw [outcome] at reads
  exact reads

end Settings

namespace Config

variable {settings : Settings} {values : List (String × Value)}

theorem ofJson_document (loudness : ∀ x ∈ settings.loudness, x.isFinite = true)
    (readsBack : ∀ x ∈ settings.numbers, x.isFinite = true → Double.ReadsBack x)
    (same : values.Perm settings.named) (finite : settings.tracksAreFinite = true) :
    ofJson (Settings.document values) = settings.config.normalize := by
  have reads := Settings.reads_config loudness readsBack same
  rw [if_pos finite] at reads
  have read : shape.readAs ofValue? (Settings.document values) = .ok settings.config :=
    Shape.readAs_document reads (by decide) (ofValue?_toValue settings.config)
  unfold ofJson
  rw [read]

theorem ofJson_document_error (loudness : ∀ x ∈ settings.loudness, x.isFinite = true)
    (readsBack : ∀ x ∈ settings.numbers, x.isFinite = true → Double.ReadsBack x)
    (same : values.Perm settings.named) (notFinite : settings.tracksAreFinite = false) :
    ∃ error, ofJson (Settings.document values) = .error error := by
  have reads := Settings.reads_config loudness readsBack same
  rw [notFinite, if_neg Bool.false_ne_true] at reads
  have read : ∃ problem, shape.readAs ofValue? (Settings.document values) = .error problem :=
    Shape.readAs_document_none reads (by decide)
  obtain ⟨problem, read⟩ := read
  refine ⟨.unreadable problem, ?_⟩
  unfold ofJson
  rw [read]

end Config

end ReleasePlayer
