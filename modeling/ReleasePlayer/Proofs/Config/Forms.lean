/-
This file proves when the two forms of settings agree, text attributes and one JSON object. Either both
are refused, for the same tracks and formats, or both come out in their normal form. Then all that can
tell them apart is a root or a slug of blanks: as an attribute it is as good as none, in an object it
is a text like any other, and only an empty one is as good as none.
-/

import ReleasePlayer.Proofs.Config.Settings

namespace ReleasePlayer

open Json (Value Shape)

namespace Text

/-- Nothing but blanks, and at least one of them. -/
def isHollow (text : String) : Bool := !text.isEmpty && isBlankText text

theorem isHollow_of_not_blank {text : String} (notBlank : isBlankText text = false) :
    isHollow text = false := by
  unfold isHollow
  rw [notBlank, Bool.and_false]

theorem eq_empty_of_isHollow {text : String} (blank : isBlankText text = true)
    (notHollow : isHollow text = false) : text = "" := by
  unfold isHollow at notHollow
  rw [blank, Bool.and_true, Bool.not_eq_false'] at notHollow
  exact String.isEmpty_iff.mp notHollow

end Text

namespace Config

/-- Two readings agree if both are refused or both give the same settings. -/
inductive Agree :
    Except (ConfigError Float) (Config Float) → Except (ConfigError Float) (Config Float) → Prop where
  | refused (error other : ConfigError Float) : Agree (.error error) (.error other)
  | taken (config : Config Float) : Agree (.ok config) (.ok config)

theorem agree_ok_iff {config other : Config Float} :
    Agree (.ok config) (.ok other) ↔ config = other := by
  constructor
  · rintro ⟨⟩
    rfl
  · rintro rfl
    exact .taken config

end Config

namespace Settings

variable {settings : Settings} {values : List (String × Value)}

/-! ### Attributes -/

theorem lookup_attributes (values : List (String × Value)) (name : String) :
    (attributes values).lookup name =
      (values.find? (·.1 == name)).map fun entry => attributeText entry.2 := by
  induction values with
  | nil => rfl
  | cons entry more inductionHypothesis =>
    show ((entry.1, attributeText entry.2) :: attributes more).lookup name = _
    rw [List.lookup_cons, List.find?_cons, BEq.comm, inductionHypothesis]
    cases entry.1 == name <;> rfl

/-- What is found under a name among attributes is the text of what was given. -/
theorem attribute?_attributes (values : List (String × Value)) (name : String) :
    Config.attribute? (attributes values) name =
      (values.reverse.find? (·.1 == name)).map fun entry => attributeText entry.2 := by
  unfold Config.attribute? attributes
  rw [← List.map_reverse]
  exact lookup_attributes values.reverse name

/-- A text as far as it is not blank. -/
def unlessBlank (setting : Option String) : Option String :=
  setting.filter fun text => !Text.isBlankText text

theorem filled?_attributes {β : Type} {name : String} {toValue : β → Value} {setting : Option β}
    (given : values.reverse.find? (·.1 == name) = setting.map fun value => (name, toValue value)) :
    Config.filled? (attributes values) name =
      unlessBlank (setting.map fun value => attributeText (toValue value)) := by
  unfold Config.filled?
  rw [attribute?_attributes, given, Option.map_map]
  rfl

theorem filled?_text {name : String} {setting : Option String}
    (given : values.reverse.find? (·.1 == name) = setting.map fun text => (name, .text text)) :
    Config.filled? (attributes values) name = unlessBlank setting := by
  rw [filled?_attributes given]
  exact congrArg unlessBlank Option.map_id'

/-- Settings without a root or a slug of blanks. -/
def filled (settings : Settings) : Settings :=
  { settings with
    root := unlessBlank settings.root
    releaseSlug := unlessBlank settings.releaseSlug
    overrideSlug := unlessBlank settings.overrideSlug }

section Listed

variable (listed : settings.Listed values.reverse)

include listed

theorem hideTitle_attributes :
    decide (Config.attribute? (attributes values) "hideTitle" = some "true") =
      settings.hideTitle := by
  rw [attribute?_attributes, listed.hideTitle]
  cases settings.hideTitle <;> rfl

theorem trialClip_attributes :
    Config.nameAttribute (attributes values) "trialClip" TrialClip.ofName? .silence =
      .ok (settings.trialClip.getD .silence) := by
  unfold Config.nameAttribute
  rw [filled?_attributes listed.trialClip]
  rcases settings.trialClip with _ | _ | _ <;> rfl

theorem volumeBar_attributes :
    Config.nameAttribute (attributes values) "volumeBar" BarAxis.ofName? .vertical =
      .ok (settings.volumeBar.getD .vertical) := by
  unfold Config.nameAttribute
  rw [filled?_attributes listed.volumeBar]
  rcases settings.volumeBar with _ | _ | _ <;> rfl

theorem loudness_attributes (readsBack : ∀ x ∈ settings.loudness, Double.ReadsBack x) :
    Config.loudnessAttribute (attributes values) = .ok settings.loudness := by
  have visible (x : Float) := Double.isVisible_text x
  have filled : Config.filled? (attributes values) "loudness" = settings.loudness.map Double.text := by
    rw [filled?_attributes listed.loudness]
    cases given : settings.loudness with
    | none => rfl
    | some x =>
      have notEmpty : Double.text x ≠ "" := by
        intro empty
        have back := (readsBack x given).1
        rw [empty] at back
        cases back
      have notBlank := Text.not_isBlankText_of_isVisible (visible x) notEmpty
      exact Option.filter_some_pos (congrArg (!·) notBlank)
  unfold Config.loudnessAttribute
  rw [filled]
  cases given : settings.loudness with
  | none => rfl
  | some x =>
    have read : Scalar.read (Text.trim (Double.text x)) = some x := by
      rw [Text.trim_of_isVisible (visible x)]
      exact (readsBack x given).1
    rw [Option.map_some]
    dsimp only
    rw [read]

end Listed

theorem jsonAttribute_attributes {β : Type} (shape : Shape) (take : Value → Option β) {name : String}
    {items : List Value}
    (found : values.reverse.find? (·.1 == name) = some (name, .list items)) :
    Config.jsonAttribute (attributes values) name shape take =
      (shape.readAs take (Value.list items).document).mapError fun problem =>
        .invalidAttribute name (.unreadable problem) := by
  have text : attributeText (.list items) = (Value.list items).document := rfl
  unfold Config.jsonAttribute
  rw [attribute?_attributes, found, Option.map_some, text]
  dsimp only
  cases shape.readAs take (Value.list items).document <;> rfl

end Settings

namespace Config

variable {settings : Settings} {values : List (String × Value)}

theorem ofAttributes_attributes (loudness : ∀ x ∈ settings.loudness, x.isFinite = true)
    (readsBack : ∀ x ∈ settings.numbers, x.isFinite = true → Double.ReadsBack x)
    (same : values.Perm settings.named) (finite : settings.tracksAreFinite = true) :
    ofAttributes (Settings.attributes values) = settings.filled.config.normalize := by
  have listed : settings.Listed values.reverse :=
    settings.listed_of_perm ((List.reverse_perm values).trans same)
  have tracks : jsonAttribute (Settings.attributes values) "tracks" (.list TrackEntry.shape)
      (Value.listOf? TrackEntry.ofValue?) = .ok settings.tracks := by
    have reads := Settings.reads_tracks readsBack
    rw [Value.readBack, Settings.isFinite_tracks, if_pos finite] at reads
    rw [Settings.jsonAttribute_attributes _ _ listed.tracks, Shape.readAs_document reads (by decide)
      (listOf?_map TrackEntry.ofValue?_toValue settings.tracks)]
    rfl
  have formats : jsonAttribute (Settings.attributes values) "formats" (.list StreamFormat.shape)
      (Value.listOf? StreamFormat.ofValue?) = .ok settings.formats := by
    have reads := StreamFormat.reads_list settings.formats
    rw [Value.readBack, StreamFormat.isFinite_list, if_pos rfl] at reads
    rw [Settings.jsonAttribute_attributes _ _ listed.formats, Shape.readAs_document reads (by decide)
      (listOf?_map StreamFormat.ofValue?_toValue settings.formats)]
    rfl
  have loud := Settings.loudness_attributes listed fun x given =>
    readsBack x (List.mem_append_left _ (Option.mem_toList.mpr given)) (loudness x given)
  unfold ofAttributes
  rw [tracks, formats, loud, Settings.trialClip_attributes listed,
    Settings.volumeBar_attributes listed, Settings.filled?_text listed.root,
    Settings.filled?_text listed.releaseSlug, Settings.filled?_text listed.overrideSlug,
    Settings.hideTitle_attributes listed]
  rfl

theorem ofAttributes_attributes_error
    (readsBack : ∀ x ∈ settings.numbers, x.isFinite = true → Double.ReadsBack x)
    (same : values.Perm settings.named) (notFinite : settings.tracksAreFinite = false) :
    ∃ error, ofAttributes (Settings.attributes values) = .error error := by
  have listed : settings.Listed values.reverse :=
    settings.listed_of_perm ((List.reverse_perm values).trans same)
  have reads := Settings.reads_tracks readsBack
  rw [Value.readBack, Settings.isFinite_tracks, notFinite, if_neg Bool.false_ne_true] at reads
  have refused := @Shape.readAs_document_none _ _ _ (Value.listOf? TrackEntry.ofValue?) _ reads
    (by decide)
  obtain ⟨problem, refused⟩ := refused
  refine ⟨.invalidAttribute "tracks" (.unreadable problem), ?_⟩
  unfold ofAttributes
  rw [Settings.jsonAttribute_attributes _ _ listed.tracks, refused]
  rfl

/-! ### The normal form -/

theorem validate_of_unnamed {config : Config Float} {position : Nat}
    (unnamed : unnamedFormat? config.formats = some position) :
    config.validate = .error (.invalidAttribute "formats" (.unnamedFormat position)) := by
  unfold validate
  rw [unnamed]

theorem validate_of_named {config : Config Float} (named : unnamedFormat? config.formats = none)
    (finite : ∀ x ∈ config.loudness, x.isFinite = true) : config.validate = .ok () := by
  unfold validate
  rw [named]
  cases given : config.loudness with
  | none => rfl
  | some x => exact if_pos (finite x given)

theorem normalize_of_unnamed (config : Config Float) {position : Nat}
    (unnamed : unnamedFormat? config.formats = some position) :
    config.normalize = .error (.invalidAttribute "formats" (.unnamedFormat position)) := by
  have invalid := @validate_of_unnamed config.normal position unnamed
  unfold normalize
  rw [invalid]
  rfl

theorem normalize_of_named (config : Config Float)
    (named : unnamedFormat? config.formats = none)
    (finite : ∀ x ∈ config.loudness, x.isFinite = true) :
    config.normalize = .ok config.normal := by
  have valid := @validate_of_named config.normal named finite
  unfold normalize
  rw [valid]
  rfl

/-- Where an empty text is as good as none, but a text of blanks is not, leaving out what is blank is
seen just for texts of blanks. -/
theorem unlessBlank_eq_iff {β : Type} {f : Option String → β} (empty : f none = f (some ""))
    (tells : ∀ text, Text.isHollow text = true → f none ≠ f (some text)) (setting : Option String) :
    f (Settings.unlessBlank setting) = f setting ↔ ∀ text ∈ setting, Text.isHollow text = false := by
  cases setting with
  | none => exact ⟨fun _ => nofun, fun _ => rfl⟩
  | some text =>
    have given (known : Text.isHollow text = false) :
        ∀ other ∈ some text, Text.isHollow other = false := by
      rintro other ⟨⟩
      exact known
    cases blank : Text.isBlankText text with
    | false =>
      have kept : Settings.unlessBlank (some text) = some text :=
        Option.filter_some_pos (congrArg (!·) blank)
      rw [kept]
      exact ⟨fun _ => given (Text.isHollow_of_not_blank blank), fun _ => rfl⟩
    | true =>
      have dropped : Settings.unlessBlank (some text) = none :=
        Option.filter_some_neg (congrArg (!·) blank)
      rw [dropped]
      refine ⟨fun same => given ?_, fun notHollow => ?_⟩
      · exact Bool.eq_false_iff.mpr fun hollow => tells text hollow same
      · rw [Text.eq_empty_of_isHollow blank (notHollow text rfl)]
        exact empty

/-- A root of blanks does not stand for the root of the site, as an empty one does. -/
theorem closedRoot_of_isHollow {text : String} (hollow : Text.isHollow text = true) :
    closedRoot "/" ≠ closedRoot text := by
  obtain ⟨notEmpty, blank⟩ := Bool.and_eq_true_iff.mp hollow
  have slash : closedRoot "/" = "/" := rfl
  rw [slash]
  unfold closedRoot
  split
  · rename_i last
    have slashBlank := List.all_eq_true.mp blank '/' (List.mem_of_getLast? last)
    exact absurd slashBlank (by decide)
  · intro same
    have chars := congrArg String.toList same
    rw [String.toList_append] at chars
    have none : text.toList = [] := List.self_eq_append_left.mp chars
    rw [String.toList_eq_nil_iff.mp none] at notEmpty
    cases notEmpty

theorem slug?_of_isHollow {text : String} (hollow : Text.isHollow text = true) :
    slug? none ≠ slug? (some text) := by
  obtain ⟨notEmpty, _⟩ := Bool.and_eq_true_iff.mp hollow
  have kept : slug? (some text) = some text := Option.filter_some_pos notEmpty
  rw [kept]
  exact (Option.some_ne_none text).symm

end Config

namespace Settings

variable {settings : Settings}

/-- The texts that addresses are made of, as far as they are given. -/
def addressTexts (settings : Settings) : List String :=
  settings.root.toList ++ settings.releaseSlug.toList ++ settings.overrideSlug.toList

/-- Settings that neither form can carry: a track has a number that is not finite, or a format has no
name. -/
def isRefused (settings : Settings) : Bool :=
  !settings.tracksAreFinite || (Config.unnamedFormat? settings.formats).isSome

theorem forall_mem_addressTexts (P : String → Prop) :
    (∀ text ∈ settings.addressTexts, P text) ↔
      (∀ text ∈ settings.root, P text) ∧ (∀ text ∈ settings.releaseSlug, P text) ∧
        ∀ text ∈ settings.overrideSlug, P text := by
  simp only [addressTexts, List.forall_mem_append, Option.mem_toList, Option.mem_def, and_assoc]

/-- With or without the texts of blanks, the settings come out alike just if there are none. -/
theorem normal_filled_eq_iff (settings : Settings) :
    settings.filled.config.normal = settings.config.normal ↔
      ∀ text ∈ settings.addressTexts, Text.isHollow text = false := by
  have slug (slug : Option String) :=
    Config.unlessBlank_eq_iff rfl (fun _ => Config.slug?_of_isHollow) slug
  have root := @Config.unlessBlank_eq_iff _ (fun root => Config.closedRoot (root.getD "/")) rfl
    (fun _ => Config.closedRoot_of_isHollow) settings.root
  rw [forall_mem_addressTexts, ← root, ← slug, ← slug]
  constructor
  · intro same
    exact ⟨congrArg Config.root same, congrArg Config.releaseSlug same,
      congrArg Config.overrideSlug same⟩
  · rintro ⟨root, releaseSlug, overrideSlug⟩
    unfold Config.normal
    rw [Config.mk.injEq]
    exact ⟨root, rfl, rfl, rfl, releaseSlug, overrideSlug, rfl, rfl, rfl⟩

/-- Both forms of settings, their values in any order, agree just if the settings are refused or
no root and no slug is given that is blank without being empty. -/
theorem forms_agree_iff (settings : Settings) {pairs fields : List (String × Value)}
    (samePairs : pairs.Perm settings.named) (sameFields : fields.Perm settings.named)
    (loudness : ∀ x ∈ settings.loudness, x.isFinite = true)
    (readsBack : ∀ x ∈ settings.numbers, x.isFinite = true → Double.ReadsBack x) :
    Config.Agree (Config.ofAttributes (attributes pairs)) (Config.ofJson (document fields)) ↔
      settings.isRefused = true ∨ ∀ text ∈ settings.addressTexts, Text.isHollow text = false := by
  unfold isRefused
  cases finite : settings.tracksAreFinite with
  | false =>
    obtain ⟨one, refused⟩ := Config.ofAttributes_attributes_error readsBack samePairs finite
    obtain ⟨other, alsoRefused⟩ :=
      Config.ofJson_document_error loudness readsBack sameFields finite
    rw [refused, alsoRefused]
    exact ⟨fun _ => Or.inl rfl, fun _ => .refused one other⟩
  | true =>
    rw [Config.ofAttributes_attributes loudness readsBack samePairs finite,
      Config.ofJson_document loudness readsBack sameFields finite]
    cases named : Config.unnamedFormat? settings.formats with
    | some position =>
      rw [Config.normalize_of_unnamed settings.filled.config named,
        Config.normalize_of_unnamed settings.config named]
      exact ⟨fun _ => Or.inl rfl, fun _ => .refused _ _⟩
    | none =>
      rw [Config.normalize_of_named settings.filled.config named loudness,
        Config.normalize_of_named settings.config named loudness, Config.agree_ok_iff]
      refine (normal_filled_eq_iff settings).trans ⟨Or.inr, fun valid => valid.resolve_left ?_⟩
      exact Bool.false_ne_true

/-- A release of one track, under a slug. -/
def oneTrack (slug : String) : Settings where
  tracks := [⟨"dawn", "Dawn", "", 0.0, 180.0⟩]
  formats := [⟨"opus", "audio/ogg"⟩]
  loudness := some (-14.5)
  root := none
  releaseSlug := some slug
  overrideSlug := none
  hideTitle := false
  trialClip := none
  volumeBar := none

theorem loudness_oneTrack (slug : String) :
    ∀ x ∈ (oneTrack slug).loudness, x.isFinite = true := by
  rintro x ⟨⟩
  decide +kernel

theorem readsBack_oneTrack (slug : String) :
    ∀ x ∈ (oneTrack slug).numbers, x.isFinite = true → Double.ReadsBack x := by
  have numbers : (oneTrack slug).numbers = [-14.5, 0.0, 180.0] := rfl
  simp only [numbers, List.forall_mem_cons]
  refine ⟨fun _ => ⟨?_, ?_⟩, fun _ => ⟨?_, ?_⟩, fun _ => ⟨?_, ?_⟩, nofun⟩
  all_goals decide +kernel

/-- A slug without blanks comes out of both forms, also where the object has its fields the other way
round. -/
theorem forms_agree_on_slug :
    (∀ x ∈ (oneTrack "first-light").loudness, x.isFinite = true) ∧
      (∀ x ∈ (oneTrack "first-light").numbers, x.isFinite = true → Double.ReadsBack x) ∧
      (oneTrack "first-light").named.reverse.Perm (oneTrack "first-light").named ∧
      Config.Agree (Config.ofAttributes (attributes (oneTrack "first-light").named))
        (Config.ofJson (document (oneTrack "first-light").named.reverse)) := by
  have finite := loudness_oneTrack "first-light"
  have back := readsBack_oneTrack "first-light"
  have turned := List.reverse_perm (oneTrack "first-light").named
  have agree := forms_agree_iff (oneTrack "first-light") (List.Perm.refl _) turned finite back
  exact ⟨finite, back, turned, agree.mpr (Or.inr (by decide))⟩

/-- A slug of one blank is none as an attribute, and the slug of the release in an object. -/
theorem forms_disagree_on_blank_slug :
    (∀ x ∈ (oneTrack " ").loudness, x.isFinite = true) ∧
      (∀ x ∈ (oneTrack " ").numbers, x.isFinite = true → Double.ReadsBack x) ∧
      ¬ Config.Agree (Config.ofAttributes (attributes (oneTrack " ").named))
        (Config.ofJson (document (oneTrack " ").named)) := by
  refine ⟨loudness_oneTrack " ", readsBack_oneTrack " ", ?_⟩
  have withoutSlug : Config.ofAttributes (attributes (oneTrack " ").named) =
      .ok { (oneTrack " ").config with releaseSlug := none } := by decide +kernel
  have withSlug : Config.ofJson (document (oneTrack " ").named) = .ok (oneTrack " ").config := by
    decide +kernel
  rw [withoutSlug, withSlug, Config.agree_ok_iff]
  intro same
  cases congrArg Config.releaseSlug same

end Settings

end ReleasePlayer
